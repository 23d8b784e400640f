import AsyncBody.CommandLine.Run

/-!
What a run leaves in a directory. A run writes its texts one after the other, each under a name that
its request gives, up to the first that has no place. Nothing else changes.
-/
namespace AsyncBody.CommandLine

def Place.target? : Place → Option Path
  | .file path | .free path false => some path
  | .folder | .free _ true => none

namespace Directory

def target? (d : Directory) (name : String) : Option Path := (d.place name).toOption.bind Place.target?

/-- The directory with a text written under a name that has a place for it. -/
def store (d : Directory) (name text : String) : Directory :=
  match d.target? name with
  | some path => d.put path text.toUTF8
  | none => d

theorem toOption_writeText (d : Directory) (name text : String) :
    (d.writeText name text).toOption = (d.target? name).map fun path => d.put path text.toUTF8 := by
  unfold writeText target?
  cases d.place name with
  | error e => rfl
  | ok place =>
    cases place with
    | folder => rfl
    | file path => rfl
    | free path asksFolder => cases asksFolder <;> rfl

theorem writeText_ok {d written : Directory} {name text : String}
    (h : d.writeText name text = .ok written) :
    (d.target? name).isSome = true ∧ written = d.store name text := by
  have hs := toOption_writeText d name text
  rw [h] at hs
  obtain ⟨path,hpath,rfl⟩ := Option.map_eq_some_iff.mp hs.symm
  exact ⟨by simp [hpath],by simp [store,hpath]⟩

theorem writeText_error {d : Directory} {name text : String} {e : FileError}
    (h : d.writeText name text = .error e) : d.target? name = none := by
  have hs := toOption_writeText d name text
  rw [h] at hs
  exact Option.map_eq_none_iff.mp hs.symm

theorem read?_put_ne (d : Directory) {path other : Path} (content : ByteArray) (h : other ≠ path) :
    (d.put path content).read? other = d.read? other := by
  have hne : (other == path) = false := by simpa using h
  simp only [read?,put,List.lookup_cons,hne]
  induction d.files with
  | nil => rfl
  | cons f files ih =>
    by_cases hf : f.1 = path
    · have hother : (other == f.1) = false := by simpa [hf] using h
      rw [List.lookup_cons,hother]
      simpa [hf] using ih
    · obtain ⟨p,bytes⟩ := f
      simp [hf,List.lookup_cons,ih]

/-- A name that leads past the folders leads to a place for a file if it is at its end. -/
theorem target?_walk_leaf (d : Directory) {here : Path} {name : String} {rest : List String}
    (hname : ¬(name = "" ∨ name = ".")) (hup : name ≠ "..") (hlong : ¬longestEntry < name.utf8ByteSize)
    (hfolder : d.isFolder (here ++ [name]) = false) :
    (d.walk (some here) (name :: rest)).toOption.bind Place.target? =
      if rest.isEmpty then some (here ++ [name]) else none := by
  simp only [walk,hname,hup,hlong,hfolder,if_false,Bool.false_eq_true]
  by_cases hfile : (d.read? (here ++ [name])).isSome = true
  · cases rest <;> simp [hfile,Except.toOption,Place.target?]
  · cases rest with
    | nil => simp [hfile,Except.toOption,Place.target?]
    | cons next rest =>
      by_cases hall : (next :: rest).all (· = "") = true
      · simp [hfile,hall,Except.toOption,Place.target?]
      · simp [hfile,hall,Except.toOption]

/-- Where a text goes depends on the folders only: a file there or a free place are as good. -/
theorem target?_walk_congr {d e : Directory} (h : d.folders = e.folders) (names : List String)
    (here : Option Path) :
    (d.walk here names).toOption.bind Place.target? =
      (e.walk here names).toOption.bind Place.target? := by
  have hfolder : ∀ path, d.isFolder path = e.isFolder path := fun path => by simp only [isFolder,h]
  induction names generalizing here with
  | nil => cases here <;> rfl
  | cons name rest ih =>
    cases here with
    | none =>
      by_cases hname : name = "" ∨ name = "." ∨ name = ".."
      · simp only [walk,hname,if_true,ih]
      · simp only [walk,hname,if_false]
    | some here =>
      by_cases hname : name = "" ∨ name = "."
      · simp only [walk,hname,if_true,ih]
      by_cases hup : name = ".."
      · simp only [walk,hname,if_pos hup,if_false,ih]
      by_cases hlong : longestEntry < name.utf8ByteSize
      · simp only [walk,hname,hup,hlong,if_true,if_false]
      cases hnext : e.isFolder (here ++ [name]) with
      | true => simp only [walk,hname,hup,hlong,hfolder,hnext,if_true,if_false,ih]
      | false =>
        rw [target?_walk_leaf d hname hup hlong ((hfolder _).trans hnext),
          target?_walk_leaf e hname hup hlong hnext]

theorem target?_congr {d e : Directory} (h : d.folders = e.folders) (name : String) :
    d.target? name = e.target? name := by
  unfold target? place
  by_cases hlong : longestName < name.utf8ByteSize
  · simp only [if_pos hlong]
  simp only [if_neg hlong]
  split
  · rfl
  · exact target?_walk_congr h _ _
  · exact target?_walk_congr h _ _

@[simp] theorem target?_put (d : Directory) (path : Path) (content : ByteArray) (name : String) :
    (d.put path content).target? name = d.target? name :=
  target?_congr (d := d.put path content) (e := d) rfl name

@[simp] theorem folders_store (d : Directory) (name text : String) :
    (d.store name text).folders = d.folders := by
  unfold store
  split <;> rfl

theorem store_of_target? {d : Directory} {name : String} {path : Path}
    (h : d.target? name = some path) (text : String) : d.store name text = d.put path text.toUTF8 := by
  simp [store,h]

@[simp] theorem target?_store (d : Directory) (name text other : String) :
    (d.store name text).target? other = d.target? other :=
  target?_congr (d.folders_store name text) other

theorem read?_store {d : Directory} {name text : String} {path : Path}
    (h : (d.store name text).read? path ≠ d.read? path) : d.target? name = some path := by
  cases htarget : d.target? name with
  | none => exact absurd (by rw [store,htarget]) h
  | some target =>
    rw [store_of_target? htarget] at h
    by_cases hpath : path = target
    · rw [hpath]
    · exact absurd (read?_put_ne d _ hpath) h

end Directory

/-- The texts that a list of actions writes, each with its name, up to an action that fails
anyway. -/
def writes : List Action → List (String × String)
  | [] => []
  | .save _ file text :: rest => (file,text) :: writes rest
  | .fail _ :: _ => []
  | .tell _ :: rest | .print _ :: rest => writes rest

/-- The directory after texts are written one after the other, up to the first that has no place. -/
def Directory.storeAll (d : Directory) : List (String × String) → Directory
  | [] => d
  | (file,text) :: rest => if (d.target? file).isSome then (d.store file text).storeAll rest else d

theorem Directory.storeAll_folders (d : Directory) (files : List (String × String)) :
    (d.storeAll files).folders = d.folders := by
  induction files generalizing d with
  | nil => rfl
  | cons w files ih =>
    unfold storeAll
    split
    · rw [ih,folders_store]
    · rfl

theorem Directory.read?_storeAll {d : Directory} {files : List (String × String)} {path : Path}
    (h : (d.storeAll files).read? path ≠ d.read? path) :
    ∃ w ∈ files, d.target? w.1 = some path := by
  induction files generalizing d with
  | nil => exact absurd rfl h
  | cons w files ih =>
    unfold storeAll at h
    split at h
    · by_cases hrest : ((d.store w.1 w.2).storeAll files).read? path = (d.store w.1 w.2).read? path
      · exact ⟨w,List.mem_cons_self ..,read?_store (hrest ▸ h)⟩
      · obtain ⟨other,hmem,htarget⟩ := ih hrest
        exact ⟨other,List.mem_cons_of_mem _ hmem,(target?_store ..).symm.trans htarget⟩
    · exact absurd rfl h

/-- A run of actions leaves the directory with what they write. It succeeds if no action fails and
all of it has a place. -/
theorem perform_writes (actions : List Action) (d : Directory) :
    (perform d actions).directory = d.storeAll (writes actions) ∧
    ((perform d actions).exit = .success ↔
      (∀ failure, .fail failure ∉ actions) ∧ ∀ w ∈ writes actions, (d.target? w.1).isSome = true) := by
  induction actions generalizing d with
  | nil => exact ⟨rfl,by simp [perform,writes]⟩
  | cons action rest ih =>
    cases action with
    | tell notice => simpa [perform,writes] using ih d
    | print text => simpa [perform,writes] using ih d
    | fail failure =>
      refine ⟨rfl,iff_of_false (by simp [perform]) fun h => ?_⟩
      exact h.1 failure (List.mem_cons_self ..)
    | save artifact file text =>
      cases hwrite : d.writeText file text with
      | ok written =>
        obtain ⟨htarget,rfl⟩ := Directory.writeText_ok hwrite
        have hrest := ih (d.store file text)
        simpa [perform,writes,hwrite,Directory.storeAll,htarget] using hrest
      | error e =>
        have htarget := Directory.writeText_error hwrite
        simp [perform,writes,hwrite,Directory.storeAll,htarget]

def Task.outputs (input : String) : Task → List String
  | .transform output _ _ sourceMap =>
    output.toList ++ if sourceMap then [output.getD input ++ ".map"] else []
  | .check | .parse _ => []

theorem writes_append_reports (verbose : Bool) (events : List Event) (actions : List Action) :
    writes (reports verbose events ++ actions) = writes actions := by
  unfold reports
  split
  · induction events.filter (! ·.isTrace) with
    | nil => rfl
    | cons e events ih => simpa [writes] using ih
  · rfl

theorem fail_notMem_reports (verbose : Bool) (events : List Event) (failure : Failure) :
    Action.fail failure ∉ reports verbose events := by
  unfold reports
  split <;> simp

theorem fail_notMem_emission (input : String) (output map : Option String) (text : String)
    (failure : Failure) : Action.fail failure ∉ emission input output map text := by
  cases output <;> cases map <;> simp [emission]

theorem writes_emission (input : String) (output map : Option String) (text : String) :
    writes (emission input output map text) =
      (output.map (·,text)).toList ++ (map.map (output.getD input ++ ".map",·)).toList := by
  cases output <;> cases map <;> rfl

namespace Request

variable (t : Toolchain) (r : Request)

/-- Either a request writes nothing; or it is to compile a source, and writes the text and the map
without another way to fail. -/
theorem writes_cases (input : Except FileError String) :
    writes (r.actions t input) = [] ∨
    ∃ output options wrap map source text,
      r.task = .transform output options wrap (Option.isSome map) ∧ input = .ok source ∧
      t.compile options wrap source r.input = .ok text ∧
      writes (r.actions t input) = writes (emission r.input output map text) ∧
      ∀ failure, .fail failure ∉ r.actions t input := by
  obtain ⟨verbose,file,task⟩ := r
  cases input with
  | error e => exact .inl rfl
  | ok source =>
    cases hread : t.readModule source file with
    | error e => exact .inl (by simp [actions,hread,writes])
    | ok p =>
      cases task with
      | check => exact .inl (by simp [actions,hread,Task.actions,writes])
      | parse asData => exact .inl (by simp [actions,hread,Task.actions,writes])
      | transform output options wrap sourceMap =>
        cases hlower : (p.toFunctionBody options).result with
        | error e =>
          left
          simp [actions,hread,Task.actions,hlower,writes_append_reports,writes]
        | ok body =>
          let printed := if wrap then options.wrap body else body
          let map := if sourceMap then some (t.sourceMap source file printed) else none
          have hmap : map.isSome = sourceMap := by cases sourceMap <;> rfl
          refine .inr ⟨output,options,wrap,map,source,t.text options wrap body,?_,rfl,
            Toolchain.compile_eq_ok hread hlower,?_,?_⟩
          · rw [hmap]
          · simp [actions,hread,Task.actions,hlower,writes_append_reports,map,printed,Toolchain.text]
          · simp [actions,hread,Task.actions,hlower,fail_notMem_reports,fail_notMem_emission]

theorem writes_names {input : Except FileError String} {w : String × String}
    (h : w ∈ writes (r.actions t input)) : w.1 ∈ r.task.outputs r.input := by
  rcases r.writes_cases t input with
    hnone | ⟨output,options,wrap,map,source,text,htask,-,-,hwrites,-⟩
  · rw [hnone] at h
    cases h
  · have hnames : (writes (emission r.input output map text)).map Prod.fst =
        r.task.outputs r.input := by
      rw [htask,writes_emission]
      cases output <;> cases map <;> rfl
    rw [← hnames,← hwrites]
    exact List.mem_map_of_mem h

/-- A run that fails leaves the directory as it was, unless the text of the body is written when the
map turns out to have no place. -/
theorem run_failed {d : Directory} (h : (r.run t d).exit ≠ .success) :
    (r.run t d).directory = d ∨
      ∃ file options wrap source text path,
        r.task = .transform (some file) options wrap true ∧ d.readText r.input = .ok source ∧
        t.compile options wrap source r.input = .ok text ∧ d.target? file = some path ∧
        d.target? (file ++ ".map") = none ∧ (r.run t d).directory = d.put path text.toUTF8 := by
  obtain ⟨hdirectory,hexit⟩ := perform_writes (r.actions t (d.readText r.input)) d
  rcases r.writes_cases t (d.readText r.input) with
    hwrites | ⟨output,options,wrap,map,source,text,htask,hsource,htext,hwrites,hfail⟩
  · left
    rw [run,hdirectory,hwrites]
    rfl
  have hplaced : ¬∀ w ∈ writes (emission r.input output map text), (d.target? w.1).isSome = true :=
    fun hplaced => h (hexit.mpr ⟨hfail,hwrites ▸ hplaced⟩)
  rw [hwrites,writes_emission] at hdirectory
  rw [writes_emission] at hplaced
  rw [run,hdirectory]
  cases output with
  | none => cases map <;> simp_all [Directory.storeAll]
  | some file =>
    cases hfile : d.target? file with
    | none => simp [Directory.storeAll,hfile]
    | some path =>
      cases map with
      | none => simp [hfile] at hplaced
      | some map =>
        have hmap : d.target? (file ++ ".map") = none := by simpa [hfile] using hplaced
        refine .inr ⟨file,options,wrap,source,text,path,htask,hsource,htext,hfile,hmap,?_⟩
        simp [Directory.storeAll,hfile,hmap,Directory.store_of_target? hfile]

end Request

/-- A run writes under the names that its request gives, and nowhere else: nothing for a check or an
outline. If it fails it has written nothing, unless the text of the body was written before the map
turned out to have no place. -/
theorem run_written (t : Toolchain) (arguments : List String) (d : Directory) :
    let o := runWith t arguments d
    o.directory.folders = d.folders ∧
    (∀ path, o.directory.read? path ≠ d.read? path →
      ∃ r name, Request.ofArguments arguments = .ok r ∧ name ∈ r.task.outputs r.input ∧
        d.target? name = some path) ∧
    (o.exit.code ≠ 0 → o.directory = d ∨
      ∃ verbose input file options wrap source text path,
        Request.ofArguments arguments =
          .ok ⟨verbose,input,.transform (some file) options wrap true⟩ ∧
        d.readText input = .ok source ∧ t.compile options wrap source input = .ok text ∧
        d.target? file = some path ∧ d.target? (file ++ ".map") = none ∧
        o.directory = d.put path text.toUTF8) := by
  intro o
  cases hrequest : Request.ofArguments arguments with
  | error stop =>
    have ho : o.directory = d := by
      simp only [o,runWith,hrequest]
      cases stop <;> rfl
    rw [ho]
    exact ⟨rfl,fun path h => absurd rfl h,fun _ => .inl rfl⟩
  | ok r =>
    have ho : o = r.run t d := by simp only [o,runWith,hrequest]
    rw [ho]
    have hdirectory := (perform_writes (r.actions t (d.readText r.input)) d).1
    refine ⟨?_,fun path hpath => ?_,fun hcode => ?_⟩
    · rw [Request.run,hdirectory,Directory.storeAll_folders]
    · rw [Request.run,hdirectory] at hpath
      obtain ⟨w,hw,htarget⟩ := Directory.read?_storeAll hpath
      exact ⟨r,w.1,rfl,r.writes_names t hw,htarget⟩
    · have hfailed : (r.run t d).exit ≠ .success := fun h => hcode (by rw [h]; rfl)
      rcases r.run_failed t hfailed with h | ⟨file,options,wrap,source,text,path,htask,h⟩
      · exact .inl h
      · exact .inr ⟨r.verbose,r.input,file,options,wrap,source,text,path,by rw [← htask],h⟩

/-- The text of the body is not taken back when there is a folder in the place of the map. -/
theorem body_written_before_failure :
    let d := Directory.ofFiles [(["a.js"],"".toUTF8),(["out.js.map","x"],"".toUTF8)]
    let o := run ["transform","a.js","-o","out.js","--source-map"] d
    o.exit.code ≠ 0 ∧ d.read? ["out.js"] = none ∧ (o.directory.read? ["out.js"]).isSome = true := by
  decide +kernel

end AsyncBody.CommandLine
