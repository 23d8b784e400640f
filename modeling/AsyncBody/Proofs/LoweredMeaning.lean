import AsyncBody.Proofs.ModuleMeaning

/-!
Modules of imports and exports keep their meaning: the body that such a module is lowered to binds
its locals to what the loaded modules export, and returns an object of its own exports.
-/
namespace AsyncBody

open Execution NameSupply

namespace Loaded

/-- What a loaded name takes from a module object: all of it, or what is under a key. -/
inductive Takes : Loaded → Option String × String → Prop where
  | whole (id : Ident) : Takes (.whole id) (none,id.name)
  | property {pattern : Node} {key name : String} (h : Reads pattern key name) :
      Takes (.property pattern) (some key,name)

theorem takes_named (imported : ExportName) (id : Ident) :
    (named imported id).Takes (some imported.text,id.name) := by
  unfold named
  split
  · rename_i name
    by_cases hname : name.name = id.name
    · rw [if_pos hname]
      show Takes _ (some name.name,id.name)
      rw [hname]
      exact .property .shorthand
    · rw [if_neg hname]
      exact .property .plain
  · exact .property .quoted

theorem takes_default (id : Ident) : (default id).Takes (some "default",id.name) :=
  .property .plain

def wholeNames (taken : List (Option String × String)) : List String :=
  taken.filterMap fun t => if t.1.isNone then some t.2 else none

def readNames (taken : List (Option String × String)) : List (String × String) :=
  taken.filterMap fun t => t.1.map fun key => (key,t.2)

variable {names : List Loaded} {taken : List (Option String × String)}

theorem wholes_take (h : List.Forall₂ Takes names taken) :
    (names.filterMap whole?).map (·.name) = wholeNames taken := by
  induction h with
  | nil => rfl
  | cons hfirst _ ih =>
    cases hfirst with
    | whole id => exact congrArg (id.name :: ·) ih
    | property => exact ih

theorem properties_take (h : List.Forall₂ Takes names taken) :
    List.Forall₂ (fun property r => Reads property r.1 r.2) (names.filterMap property?)
      (readNames taken) := by
  induction h with
  | nil => exact .nil
  | cons hfirst _ ih =>
    cases hfirst with
    | whole => exact ih
    | property hreads => exact .cons hreads ih

theorem taken_perm (value : Value) (taken : List (Option String × String)) :
    (taken.map fun t => (t.2,value.take t.1)).Perm
      ((wholeNames taken).map (fun name => (name,value)) ++
        (readNames taken).map fun r => (r.2,value.get r.1)) := by
  induction taken with
  | nil => exact .refl _
  | cons t rest ih =>
    obtain ⟨key,name⟩ := t
    cases key with
    | none => exact ih.cons (name,value)
    | some key => exact (ih.cons (name,value.get key)).trans List.perm_middle.symm

end Loaded

namespace Lowering

open Loaded

variable {host : Host} {hook : String} {attributes : Node}

/-- Statements that bind new names and call the hook, wherever they run. -/
def Runs (host : Host) (hook : String) (statements : List Node) (bound : List (String × Value))
    (requests : List Call) : Prop :=
  ∀ env calls, env hook = some .hook → env.Unbound bound →
    ∃ env', runStatements host statements ⟨env,calls⟩ = some ⟨env',calls ++ requests⟩ ∧
      env.Extends env' bound

namespace Runs

variable {first rest : List Node} {bound others : List (String × Value)} {requests more : List Call}

theorem nil (host : Host) (hook : String) : Runs host hook [] [] [] := by
  intro env calls _ _
  refine ⟨env,?_,.refl env⟩
  rw [List.append_nil]
  rfl

theorem one {statement : Node} (h : ∀ env calls, env hook = some .hook → env.Unbound bound →
    ∃ env', runStatement host statement ⟨env,calls⟩ = some ⟨env',calls ++ requests⟩ ∧
      env.Extends env' bound) : Runs host hook [statement] bound requests := by
  intro env calls hhook hunbound
  obtain ⟨env',hrun,hextends⟩ := h env calls hhook hunbound
  refine ⟨env',?_,hextends⟩
  rw [runStatements,hrun]
  rfl

theorem append (h : Runs host hook first bound requests) (h' : Runs host hook rest others more) :
    Runs host hook (first++rest) (bound++others) (requests++more) := by
  intro env calls hhook hunbound
  obtain ⟨middle,hfirst,hmiddle⟩ := h env calls hhook hunbound.left
  obtain ⟨env',hrest,hextends⟩ := h' middle (calls++requests)
    (hmiddle.some_of_some hunbound.left hhook) (hunbound.after hmiddle)
  refine ⟨env',?_,hmiddle.trans hextends hunbound⟩
  rw [runStatements_append,hfirst]
  show runStatements host rest ⟨middle,calls++requests⟩ = _
  rw [hrest,List.append_assoc]

theorem perm (h : Runs host hook first bound requests) (hperm : others.Perm bound) :
    Runs host hook first others requests := by
  intro env calls hhook hunbound
  obtain ⟨env',hrun,hextends⟩ := h env calls hhook (hunbound.perm hperm.symm)
  exact ⟨env',hrun,hextends.perm hperm⟩

end Runs

theorem runDeclarators_cons {init pattern : Node} {value : Value} {env env' : Env}
    {calls calls' : List Call} (heval : eval host env calls init = some (value,calls'))
    (hbind : bindPattern host value pattern env = some env') (rest : List Node) :
    runDeclarators host (declarator pattern init :: rest) ⟨env,calls⟩ =
      runDeclarators host rest ⟨env',calls'⟩ := by
  simp only [declarator,runDeclarators,heval,hbind,Option.bind_eq_bind,Option.bind_some]

theorem bindPattern_load {env : Env} {call : Call} {properties : List Node}
    {reads : List (String × String)}
    (hreads : List.Forall₂ (fun property r => Reads property r.1 r.2) properties reads)
    (hunbound : env.Unbound (reads.map fun r => (r.2,(host.load call).get r.1))) (span : Span) :
    ∃ env', bindPattern host (host.load call) (objectPattern span properties) env = some env' ∧
      env.Extends env' (reads.map fun r => (r.2,(host.load call).get r.1)) :=
  bindProperties_extends hreads [] hunbound

theorem loadStatement_runs (host : Host) (hook : String) {names : List Loaded}
    {taken : List (Option String × String)}
    (htaken : List.Forall₂ Takes names taken) (hwhole : (wholeNames taken).length ≤ 1)
    (hattributes : isAttributes attributes = true) {source : StringLiteral}
    (hplain : (requestOf source attributes).IsPlain) (span : Span) :
    Runs host hook [loadStatement hook span ⟨source,attributes⟩ names]
      (taken.map fun t => (t.2,(host.load (requestOf source attributes)).take t.1))
      [requestOf source attributes] := by
  refine Runs.perm (.one fun env calls hhook hparts => ?_)
    (taken_perm (host.load (requestOf source attributes)) taken)
  have hload := eval_load host hhook hattributes hplain span calls
  have hreads := properties_take htaken
  have hwholes := wholes_take htaken
  rw [← hwholes] at hwhole hparts ⊢
  dsimp only [loadStatement]
  cases hnames : names.filterMap whole? with
  | nil =>
    rw [hnames] at hparts
    cases hproperties : names.filterMap property? with
    | nil =>
      rw [hproperties] at hreads
      rw [List.forall₂_nil_left_iff.mp hreads]
      refine ⟨env,?_,.refl env⟩
      simp only [List.getLast?_nil,runStatement,hload,Option.bind_eq_bind,Option.bind_some]
      rfl
    | cons pattern patterns =>
      rw [hproperties] at hreads
      obtain ⟨env',hbind,hextends⟩ := bindPattern_load hreads hparts span
      exact ⟨env',runDeclarators_cons hload hbind [],hextends⟩
  | cons id others =>
    obtain rfl : others = [] := by
      rw [hnames] at hwhole
      simpa using hwhole
    rw [hnames,List.map_singleton,List.map_singleton] at hparts
    obtain ⟨middle,hdeclare,hmiddle⟩ := Env.declare_of_unbound hparts.left
    have hfirst : ∀ rest, runDeclarators host
        (declarator id.pattern (Request.load ⟨source,attributes⟩ hook span) :: rest) ⟨env,calls⟩ =
          runDeclarators host rest ⟨middle,calls ++ [requestOf source attributes]⟩ :=
      runDeclarators_cons hload hdeclare
    cases hproperties : names.filterMap property? with
    | nil =>
      rw [hproperties] at hreads
      rw [List.forall₂_nil_left_iff.mp hreads]
      exact ⟨middle,hfirst [],hmiddle⟩
    | cons pattern patterns =>
      rw [hproperties] at hreads
      obtain ⟨env',hbind,hextends⟩ := bindPattern_load hreads (hparts.after hmiddle) span
      have hbound := hmiddle.bound _ (List.mem_singleton.mpr rfl)
      refine ⟨env',?_,hmiddle.trans hextends hparts⟩
      exact (hfirst _).trans (runDeclarators_cons (eval_reference hbound _) hbind [])

theorem starStatement_runs (host : Host) (hook : String)
    (hattributes : isAttributes attributes = true) {source : StringLiteral}
    (hplain : (requestOf source attributes).IsPlain) (unused rest : Ident) (span : Span) :
    Runs host hook [loadStatement hook span ⟨source,attributes⟩ [.default unused,.rest rest]]
      [(unused.name,(host.load (requestOf source attributes)).get "default"),
        (rest.name,host.plain ((host.ownOf (requestOf source attributes)).without ["default"]))]
      [requestOf source attributes] := by
  refine .one fun env calls hhook hunbound => ?_
  have hload := eval_load host hhook hattributes hplain span calls
  rw [← List.singleton_append] at hunbound ⊢
  obtain ⟨middle,hunused,hmiddle⟩ := Env.declare_of_unbound hunbound.left
  obtain ⟨env',hrest,hextends⟩ := Env.declare_of_unbound (hunbound.after hmiddle)
  have hbind : bindPattern host (host.load (requestOf source attributes))
      (objectPattern span [.node .nowhere .keyValuePattern
        [.leaf unused.span (.propertyName "default"),unused.pattern],
        .node rest.span (.restElement .nowhere) [rest.pattern,.absent]]) env = some env' := by
    have hreads : Reads (.node .nowhere .keyValuePattern
        [.leaf unused.span (.propertyName "default"),unused.pattern]) "default" unused.name := .plain
    refine (bindProperties_cons hreads [] _ env).trans ?_
    show (env.declare unused.name ((host.load (requestOf source attributes)).get _)).bind _ = _
    rw [hunused]
    exact hrest
  exact ⟨env',runDeclarators_cons hload hbind [],hmiddle.trans hextends hunbound⟩

end Lowering

inductive Export.Means (env : Env) : Export → Exported → Prop where
  | named {exported : ExportName} {id : Ident} {value : Value} (h : env id.name = some value) :
      Means env (.named exported id) (.named exported.text value)
  | spread {id : Ident} {prototype : Value} {own : Properties}
      (h : env id.name = some (.object prototype own)) : Means env (.spread id) (.star own)

namespace Lowering

open Loaded

variable {host : Host} {hook : String} {locals : List String} {value : String → Value}

/-- What an item becomes does what the item does: it binds `bound` and calls the hook for the same
modules, and its entries export the same. -/
structure Lowered.Means (host : Host) (hook : String) (locals : List String)
    (value : String → Value) (item : Node) (bound : List (String × Value)) (l : Lowered) : Prop where
  runs : Runs host hook l.statement.toList bound item.requests
  exports : ∀ env : Env, (∀ b ∈ bound, env b.1 = some b.2) →
    (∀ name ∈ locals, env name = some (value name)) →
    List.Forall₂ (Export.Means env) l.exports (item.exportsOf host value)

theorem loaded_takes {s : ImportSpecifier} (h : s.isType = false) :
    ∃ l, s.loaded = some l ∧ l.Takes (s.key,s.bound.name) := by
  cases s with
  | named _ bound imported typeOnly =>
    obtain rfl : typeOnly = false := h
    exact ⟨_,rfl,takes_named ..⟩
  | default _ bound => exact ⟨_,rfl,takes_default bound⟩
  | whole _ bound => exact ⟨_,rfl,.whole bound⟩

theorem specifiers_take {specifiers : List ImportSpecifier}
    (h : ∀ s ∈ specifiers, s.isType = false) :
    List.Forall₂ Takes (specifiers.filterMap ImportSpecifier.loaded)
      (specifiers.map fun s => (s.key,s.bound.name)) := by
  induction specifiers with
  | nil => exact .nil
  | cons s rest ih =>
    obtain ⟨l,hl,htakes⟩ := loaded_takes (h s List.mem_cons_self)
    rw [List.filterMap_cons_some hl]
    exact .cons htakes (ih fun s hs => h s (List.mem_cons_of_mem _ hs))

theorem wholeNames_length {α : Type} {isWhole : α → Bool} {key : α → Option String}
    (hwhole : ∀ specifier, isWhole specifier = (key specifier).isNone) {specifiers : List α}
    {taken : List (Option String × String)} (hkeys : taken.map Prod.fst = specifiers.map key) :
    (wholeNames taken).length = specifiers.countP isWhole := by
  have hcount : (wholeNames taken).length = (taken.map Prod.fst).countP Option.isNone := by
    rw [wholeNames,List.length_filterMap_eq_countP,List.countP_map]
    refine List.countP_congr fun t _ => ?_
    cases h : t.1 <;> simp [h]
  rw [hcount,hkeys,List.countP_map]
  exact List.countP_congr fun specifier _ => by rw [hwhole]; rfl

theorem through_takes (span : Span) (specifier : ExportSpecifier) (name : String) :
    (specifier.through span name).1.Takes (specifier.key,name) := by
  cases specifier with
  | named => exact takes_named ..
  | default => exact takes_default _
  | whole => exact .whole _

theorem through_means {env : Env} {specifier : ExportSpecifier} {name : String} {v : Value}
    (h : env name = some v) (span : Span) :
    (specifier.through span name).2.Means env (.named specifier.exportedName v) := by
  cases specifier <;> exact .named h

def taken (specifiers : List ExportSpecifier) (names : List String) :
    List (Option String × String) :=
  specifiers.zipWith (fun specifier name => (specifier.key,name)) names

theorem zipWith_through_take (span : Span) {specifiers : List ExportSpecifier} {names : List String}
    (h : names.length = specifiers.length) :
    List.Forall₂ Takes ((specifiers.zipWith (·.through span) names).map Prod.fst)
        (taken specifiers names) ∧
      (taken specifiers names).map Prod.fst = specifiers.map ExportSpecifier.key ∧
      (taken specifiers names).map Prod.snd = names := by
  induction specifiers generalizing names with
  | nil =>
    rw [List.eq_nil_of_length_eq_zero h]
    exact ⟨.nil,rfl,rfl⟩
  | cons specifier rest ih =>
    obtain _ | ⟨name,names⟩ := names
    · cases h
    · obtain ⟨htake,hkeys,hnames⟩ := ih (Nat.succ.inj h)
      exact ⟨.cons (through_takes span specifier name) htake,congrArg _ hkeys,congrArg _ hnames⟩

theorem zipWith_through_mean {env : Env} {object : Value} (span : Span)
    {specifiers : List ExportSpecifier} {names : List String}
    (h : names.length = specifiers.length)
    (henv : ∀ t ∈ taken specifiers names, env t.2 = some (object.take t.1)) :
    List.Forall₂ (Export.Means env) ((specifiers.zipWith (·.through span) names).map Prod.snd)
      (specifiers.map fun s => .named s.exportedName (object.take s.key)) := by
  induction specifiers generalizing names with
  | nil =>
    rw [List.eq_nil_of_length_eq_zero h]
    exact .nil
  | cons specifier rest ih =>
    obtain _ | ⟨name,names⟩ := names
    · cases h
    · refine .cons (through_means (henv _ List.mem_cons_self) span) (ih (Nat.succ.inj h) ?_)
      exact fun t ht => henv t (List.mem_cons_of_mem _ ht)

/-- Attributes that say strings only are routed to themselves, so they are what is asked for. -/
theorem ModuleLoad.runs {m : ModuleLoad} (h : isAttributes m.attributes = true)
    {bound : List (String × Value)} {requests : List Call}
    (hruns : Runs host hook [loadStatement hook m.span ⟨m.source,m.attributes⟩ m.names] bound
      requests) : Runs host hook (m.lowered hook).statement.toList bound requests := by
  rw [← attributes_route hook h] at hruns
  exact hruns

theorem Loads.means {n : Node} {names : List String} {m : ModuleLoad} (h : Loads n names m)
    (hlinks : n.Linking locals) (hplain : ∀ call ∈ n.requests, call.IsPlain) :
    ∃ made, made.map Prod.fst = names ∧
      (m.lowered hook).Means host hook locals value n (n.imports host ++ made) := by
  cases h with
  | @imported span specifiers source phase attributes =>
    obtain ⟨htypes,hwhole,hattributes⟩ | _ | _ | _ | _ := hlinks
    refine ⟨[],rfl,ModuleLoad.runs hattributes ?_,fun env _ _ => .nil⟩
    have hwholes : (wholeNames (specifiers.map fun s => (s.key,s.bound.name))).length ≤ 1 := by
      rw [wholeNames_length ImportSpecifier.isWhole_eq (by rw [List.map_map]; rfl)]
      exact hwhole
    have hruns := loadStatement_runs host hook (specifiers_take htypes) hwholes hattributes
      (hplain _ List.mem_cons_self) span
    rw [List.map_map] at hruns
    rw [List.append_nil]
    exact hruns
  | @reexported span specifiers source attributes names _ hlength =>
    obtain _ | ⟨htypes,hwhole,hattributes⟩ | _ | _ | _ := hlinks
    have hvalues : specifiers.filter (! ·.isType) = specifiers :=
      List.filter_eq_self.mpr fun s hs => by rw [htypes s hs]; rfl
    rw [hvalues] at hlength ⊢
    obtain ⟨htaken,hkeys,hnames⟩ := zipWith_through_take span hlength
    have hwholes : (wholeNames (taken specifiers names)).length ≤ 1 := by
      rw [wholeNames_length ExportSpecifier.isWhole_eq hkeys]
      exact hwhole
    have hruns := loadStatement_runs host hook htaken hwholes hattributes
      (hplain _ List.mem_cons_self) span
    refine ⟨_,?_,ModuleLoad.runs hattributes hruns,?_⟩
    · rw [List.map_map]
      exact hnames
    · intro env henv _
      exact zipWith_through_mean span hlength fun t ht => henv _ (List.mem_map_of_mem ht)
  | @star span source attributes unused rest =>
    obtain _ | _ | _ | ⟨hattributes⟩ | _ := hlinks
    have hruns := starStatement_runs host hook hattributes (hplain _ List.mem_cons_self)
      (.named unused span) (.named rest span) span
    refine ⟨_,?_,ModuleLoad.runs hattributes hruns,fun env henv _ => ?_⟩
    · rfl
    · exact .cons (.spread (henv _ (List.mem_cons_of_mem _ List.mem_cons_self))) .nil

theorem importEquals_means (source : StringLiteral) (isExport : Bool) (name : Ident) (span : Span)
    {l : Lowered}
    (hstatement : l.statement = some (constDeclaration span
      [declarator (Ident.named name.name name.span).pattern
        ((⟨source,.absent⟩ : Request).load hook span)]))
    (hexports : l.exports = if isExport then [.own name] else []) (place : Span)
    (parts : List Node) :
    l.Means host hook locals value
      (.node span (.importEquals isExport false name) [.node place (.externalModule source) parts])
      [(name.name,host.load ⟨source.value,none⟩)] := by
  constructor
  · rw [hstatement]
    refine .one fun env calls hhook hunbound => ?_
    obtain ⟨env',hdeclare,hextends⟩ := Env.declare_of_unbound hunbound
    have hload : eval host env calls ((⟨source,.absent⟩ : Request).load hook span) =
        some (host.load ⟨source.value,none⟩,calls ++ [⟨source.value,none⟩]) :=
      eval_load host hhook rfl (requestOf_absent_isPlain source) span calls
    have hbind : bindPattern host (host.load ⟨source.value,none⟩)
        (Ident.named name.name name.span).pattern env = some env' := hdeclare
    exact ⟨env',runDeclarators_cons hload hbind [],hextends⟩
  · intro env henv _
    rw [hexports]
    cases isExport with
    | false => exact .nil
    | true => exact .cons (.named (henv _ List.mem_cons_self)) .nil

theorem localExports_mean {specifiers : List ExportSpecifier} {env : Env}
    (h : ∀ s ∈ specifiers, s.local?.any (locals.contains ·.name) = true)
    (hlocals : ∀ name ∈ locals, env name = some (value name)) :
    List.Forall₂ (Export.Means env) (specifiers.filterMap localExport)
      (specifiers.filterMap fun s =>
        s.local?.map fun name => .named s.exportedName (value name.name)) := by
  induction specifiers with
  | nil => exact .nil
  | cons s rest ih =>
    have hfirst := h s List.mem_cons_self
    have hrest := ih fun s hs => h s (List.mem_cons_of_mem _ hs)
    unfold ExportSpecifier.local? at hfirst
    split at hfirst
    · rename_i span id exported
      have hmem : id.name ∈ locals := by simpa using hfirst
      exact .cons (.named (hlocals _ hmem)) hrest
    · cases hfirst

theorem not_all_types {α : Type} {isType : α → Bool} {specifiers : List α}
    (h : ∀ s ∈ specifiers, isType s = false) :
    (! specifiers.isEmpty && specifiers.all isType) = false := by
  cases specifiers with
  | nil => rfl
  | cons s rest => rw [List.all_cons,h s List.mem_cons_self,Bool.false_and,Bool.and_false]

theorem linking_isLowered {n : Node} (h : n.Linking locals) : isLowered n = true := by
  cases h <;> rfl

theorem linking_dropEvent {n : Node} (h : n.Linking locals) : n.dropEvent = none := by
  cases h with
  | importDeclaration htypes =>
    rw [Node.dropEvent,not_all_types htypes]
    rfl
  | reexport htypes =>
    rw [Node.dropEvent,Option.bind_some,not_all_types htypes]
    rfl
  | locals | star | require => rfl

/-- What a linking item becomes does what the item does, with fresh names beside its own. -/
theorem Lowers.means {n : Node} {names : List String} {l : Lowered} (h : Lowers hook n names l)
    (hlinks : n.Linking locals) (hplain : ∀ call ∈ n.requests, call.IsPlain) :
    ∃ made, made.map Prod.fst = names ∧
      l.Means host hook locals value n (n.imports host ++ made) := by
  cases h with
  | kept h => cases h.symm.trans (linking_isLowered hlinks)
  | dropped h => cases h.symm.trans (linking_dropEvent hlinks)
  | loaded h => exact h.means hlinks hplain
  | listed =>
    obtain _ | _ | ⟨hspecifiers⟩ | _ | _ := hlinks
    exact ⟨[],rfl,.nil host hook,fun env _ hlocals => localExports_mean hspecifiers hlocals⟩
  | @reference span isExport name =>
    obtain _ | _ | _ | _ | _ := hlinks
    exact ⟨[],rfl,importEquals_means _ isExport name span rfl rfl _ []⟩
  | _ => cases hlinks

theorem items_mean (host : Host) (hook : String) (value : String → Value) {ns : List Node}
    (h : ∀ n ∈ ns, n.links locals = true) (hplain : ∀ call ∈ ns.flatMap Node.requests, call.IsPlain)
    (s : NameSupply) :
    let lowered := items hook (Node.routeAll hook ns).result s
    ∃ made, Draws s (made.map Prod.fst) lowered.2 ∧
      Runs host hook (lowered.1.filterMap (·.statement)) (ns.flatMap (·.imports host) ++ made)
        (ns.flatMap Node.requests) ∧
      ∀ env : Env, (∀ b ∈ ns.flatMap (·.imports host) ++ made, env b.1 = some b.2) →
        (∀ name ∈ locals, env name = some (value name)) →
        List.Forall₂ (Export.Means env) (lowered.1.flatMap (·.exports))
          (ns.flatMap (·.exportsOf host value)) := by
  induction ns generalizing s with
  | nil => exact ⟨[],.none,.nil host hook,fun _ _ _ => .nil⟩
  | cons n rest ih =>
    obtain ⟨made,hmade,hmeans⟩ : ∃ made, made.map Prod.fst = (s.draw n.freshBases).1 ∧
        (item hook (Node.route hook n).result s).1.Means host hook locals value n
          (n.imports host ++ made) :=
      (item_lowers hook n s).means (Node.linking (h n List.mem_cons_self))
        (fun call hcall => hplain call (List.mem_append_left _ hcall))
    obtain ⟨others,hothers,hruns,hexports⟩ :=
      ih (fun n hn => h n (List.mem_cons_of_mem _ hn))
        (fun call hcall => hplain call (List.mem_append_right _ hcall))
        (item hook (Node.route hook n).result s).2
    have hswap : (n.imports host ++ rest.flatMap (·.imports host) ++ (made++others)).Perm
        ((n.imports host ++ made) ++ (rest.flatMap (·.imports host) ++ others)) := by
      rw [List.append_assoc,List.append_assoc]
      exact (List.perm_append_comm_assoc ..).append_left _
    have hdraws : Draws s (made.map Prod.fst) (item hook (Node.route hook n).result s).2 := by
      rw [item_supply,hmade]
      exact draw_draws ..
    rw [items_route_cons]
    refine ⟨made++others,?_,?_,?_⟩
    · rw [List.map_append]
      exact hdraws.append hothers
    · dsimp only
      rw [statements_cons]
      exact (hmeans.runs.append hruns).perm hswap
    · intro env henv hlocals
      have hbound := fun b hb => henv b (hswap.mem_iff.mpr hb)
      refine List.rel_append (hmeans.exports env ?_ hlocals) (hexports env ?_ hlocals)
      · exact fun b hb => hbound b (List.mem_append_left _ hb)
      · exact fun b hb => hbound b (List.mem_append_right _ hb)

end Lowering

namespace Exported

def isStar : Exported → Bool
  | .star _ => true
  | .named .. => false

def addTo (own : Properties) : Exported → Properties
  | .named key value => own.define key value
  | .star source => own.copy source

def valueAt (key : String) : Exported → Option Value
  | .named name value => if name = key then some value else none
  | .star own => own key

theorem addTo_apply (own : Properties) (x : Exported) (key : String) :
    x.addTo own key = (x.valueAt key).or (own key) := by
  cases x with
  | star source => rfl
  | named name value =>
    by_cases hkey : key = name
    · simp [addTo,valueAt,Properties.define,hkey]
    · simp [addTo,valueAt,Properties.define,hkey,Ne.symm hkey]

/-- Exports that are added one after another: the last one that says something of a key wins. -/
theorem foldl_addTo (table : List Exported) (own : Properties) (key : String) :
    table.foldl addTo own key = (table.reverse.findSome? (valueAt key)).or (own key) := by
  induction table generalizing own with
  | nil => rfl
  | cons x rest ih =>
    rw [List.foldl_cons,ih,addTo_apply,List.reverse_cons,List.findSome?_append,Option.or_assoc]
    simp

theorem findSome?_filter (p : Exported → Bool) (f : Exported → Option Value)
    (table : List Exported) :
    (table.filter p).findSome? f = table.findSome? fun x => if p x then f x else none := by
  induction table with
  | nil => rfl
  | cons x rest ih =>
    cases hx : p x with
    | true =>
      rw [List.filter_cons_of_pos hx,List.findSome?_cons,List.findSome?_cons,ih,if_pos hx]
    | false => simp [hx,ih]

/-- Stars that are added before the other exports make the properties of the table. -/
theorem foldl_stars_first (table : List Exported) :
    (table.filter isStar ++ table.filter (! isStar ·)).foldl addTo (fun _ => none) =
      properties table := by
  funext key
  rw [foldl_addTo,List.reverse_append,List.findSome?_append,Option.or_none,← List.filter_reverse,
    ← List.filter_reverse,findSome?_filter,findSome?_filter,properties]
  congr 2
  · funext x
    cases x <;> rfl
  · funext x
    cases x <;> rfl

end Exported

namespace Export

variable {host : Host} {env : Env}

/-- Under the key of an export a value is defined, even if the key is `__proto__`. -/
theorem evalProperties_key {value : Node} {v : Value} {calls : List Call}
    (heval : eval host env calls value = some (v,calls)) (exported : ExportName)
    (object : Value × Properties) (rest : List Node) :
    evalProperties host env calls object (.node .nowhere .keyValue [key exported,value] :: rest) =
      evalProperties host env calls (object.1,object.2.define exported.text v) rest := by
  have hcomputed (name : StringLiteral) :
      evalProperties host env calls object
          (.node .nowhere .keyValue [computedKey name,value] :: rest) =
        evalProperties host env calls (object.1,object.2.define name.value v) rest := by
    have hkey : eval host env calls name.toNode = some (.text name.value,calls) := rfl
    simp only [computedKey,evalProperties,hkey,heval,Option.bind_eq_bind,Option.bind_some]
  cases exported with
  | string name => exact hcomputed name
  | ident name =>
    rw [key]
    by_cases hname : name.name = "__proto__"
    · rw [if_pos hname]
      exact hcomputed (.plain name.name name.span)
    · rw [if_neg hname]
      simp only [Node.leaf,evalProperties,heval,setProperty,if_neg hname,Option.bind_eq_bind,
        Option.bind_some]
      rfl

theorem evalProperties_property {e : Export} {x : Exported} (h : e.Means env x)
    (calls : List Call) (object : Value × Properties) (rest : List Node) :
    evalProperties host env calls object (e.property :: rest) =
      evalProperties host env calls (object.1,x.addTo object.2) rest := by
  cases h with
  | @spread id prototype own h =>
    simp only [property,evalProperties,eval_reference h,Option.bind_eq_bind,Option.bind_some]
    rfl
  | @named exported id value h =>
    rw [property]
    by_cases hshort : isShorthand exported id = true
    · rw [if_pos hshort]
      have hname : exported.text = id.name := by
        cases exported with
        | ident name =>
          simp only [isShorthand,Bool.and_eq_true,beq_iff_eq] at hshort
          exact hshort.2
        | string => cases hshort
      rw [hname]
      show (env id.name).bind _ = _
      rw [h]
      rfl
    · rw [if_neg hshort]
      exact evalProperties_key (eval_reference h calls) exported object rest

theorem evalProperties_table (host : Host) {table : List Export} {exported : List Exported}
    (h : List.Forall₂ (Means env) table exported) (calls : List Call)
    (object : Value × Properties) :
    evalProperties host env calls object (table.map property) =
      some ((object.1,exported.foldl Exported.addTo object.2),calls) := by
  induction h generalizing object with
  | nil => rfl
  | cons hfirst _ ih =>
    rw [List.map_cons,evalProperties_property hfirst,ih]
    rfl

theorem Means.isSpread {e : Export} {x : Exported} (h : e.Means env x) :
    e.isSpread = x.isStar := by
  cases h <;> rfl

theorem eval_literal (host : Host) {table : List Export} {exported : List Exported}
    (h : List.Forall₂ (Means env) table exported) (span : Span) (calls : List Call) :
    eval host env calls (.node span .object [.many (properties table)]) =
      some (host.plain (Exported.properties exported),calls) := by
  have hspreads : List.Forall₂ (Means env) (table.filter Export.isSpread)
      (exported.filter Exported.isStar) :=
    List.rel_filter (fun _ _ hmeans => by simp only [hmeans.isSpread]) h
  have hnamed : List.Forall₂ (Means env) (table.filter (! Export.isSpread ·))
      (exported.filter (! Exported.isStar ·)) :=
    List.rel_filter (fun _ _ hmeans => by simp only [hmeans.isSpread]) h
  have hproperties := evalProperties_table host (List.rel_append hspreads hnamed) calls
    (host.root,fun _ => none)
  dsimp only at hproperties
  rw [Exported.foldl_stars_first] at hproperties
  show (evalProperties host env calls (host.root,fun _ => none) (properties table)).bind _ = _
  rw [properties,hproperties]
  rfl

end Export

namespace Node

/-- The locals of linking items are the names that their imports bind. -/
theorem importLocals_eq {locals : List String} {n : Node} (h : n.links locals = true)
    (host : Host) : n.importLocals = (n.imports host).map Prod.fst := by
  cases linking h with
  | importDeclaration => simp [importLocals,imports]
  | reexport | locals | star | require => rfl

theorem importLocals_itemNames {n : Node} {name : String} (h : name ∈ n.importLocals) :
    name ∈ n.itemNames := by
  unfold Node.importLocals at h
  split at h
  · exact h
  · exact h
  · cases h

theorem importLocals_spelled {n : Node} {name : String} (h : name ∈ n.importLocals) :
    name ∈ n.spelled := by
  unfold Node.importLocals at h
  split at h
  · rename_i specifiers _ _ _ _
    obtain ⟨s,hs,rfl⟩ := List.mem_map.mp h
    refine List.mem_append_left _ (List.mem_flatMap.mpr ⟨s,hs,?_⟩)
    exact List.mem_map_of_mem s.bound_mem_idents
  · exact List.mem_append_left _ h
  · cases h

end Node

namespace Program

open Lowering

variable {p : Program}

theorem importLocals_map (hlinks : p.links = true) (host : Host) :
    (p.imports host).map Prod.fst = p.importLocals := by
  rw [imports,importLocals,List.map_flatMap]
  refine List.flatMap_congr fun n hn => ?_
  exact (Node.importLocals_eq (List.all_eq_true.mp hlinks n hn) host).symm

theorem localValue_mem (hlinks : p.links = true) (host : Host) {name : String}
    (hname : name ∈ p.importLocals) : (name,p.localValue host name) ∈ p.imports host := by
  rw [← importLocals_map hlinks host] at hname
  obtain ⟨b,hb,rfl⟩ := List.mem_map.mp hname
  rw [localValue]
  cases hlookup : (p.imports host).lookup b.1 with
  | none =>
    have hne := List.lookup_eq_none_iff.mp hlookup b hb
    simp at hne
  | some v =>
    obtain ⟨first,rest,hsplit,-⟩ := List.lookup_eq_some_iff.mp hlookup
    rw [hsplit]
    exact List.mem_append_right _ List.mem_cons_self

/-- A module of imports and exports keeps its meaning, unless an attribute of an import has the key
that sets the prototype in an object literal. Its body asks the hook for the modules that the items
name, one call for each and in their order, binds every imported local to the value that it stands
for, and returns the object of the exports. -/
theorem toFunctionBody_evaluates (host : Host) (options : Options) (p body : Program)
    (hlinks : p.links = true) (hlocals : p.importLocals.Nodup)
    (hplain : ∀ call ∈ p.requests, call.IsPlain)
    (hok : (p.toFunctionBody options).result = .ok body) :
    ∃ state, runBody host options.importName body.body = some (p.namespaceObject host,state) ∧
      state.calls = p.requests ∧ ∀ b ∈ p.imports host, state.env b.1 = some b.2 := by
  obtain ⟨-,htop,-,rfl⟩ := toFunctionBody_eq_ok.mp hok
  let hook := options.importName
  let initial : Env := fun x => if x = hook then some .hook else none
  have hitems := List.all_eq_true.mp hlinks
  have hnames := importLocals_map hlinks host
  obtain ⟨made,hdraws,hruns,hexports⟩ :=
    items_mean host hook (p.localValue host) hitems hplain (.ofProgram p hook)
  have hspelled : ∀ name ∈ p.importLocals, name ≠ hook ∧ name ∈ Node.spelledAll p.body := by
    intro name hname
    obtain ⟨n,hn,hname⟩ := List.mem_flatMap.mp hname
    constructor
    · rintro rfl
      refine htop (List.mem_append_right _ (List.mem_flatMap.mpr ⟨n,hn,?_⟩))
      exact Node.importLocals_itemNames hname
    · rw [Node.spelledAll_eq]
      exact List.mem_flatMap.mpr ⟨n,hn,Node.importLocals_spelled hname⟩
  have hunbound : initial.Unbound (p.imports host ++ made) := by
    constructor
    · intro b hb
      refine if_neg ?_
      rcases List.mem_append.mp hb with hb | hb
      · exact (hspelled b.1 (hnames ▸ List.mem_map_of_mem hb)).1
      · intro hhook
        refine hdraws.not_mem_taken _ (List.mem_map_of_mem hb) ?_
        rw [hhook]
        exact List.mem_cons_self
    · rw [List.map_append,hnames]
      refine List.nodup_append'.mpr ⟨hlocals,hdraws.nodup,?_⟩
      intro name hname hmade
      refine hdraws.not_mem_taken name hmade (List.mem_cons_of_mem _ ?_)
      exact (hspelled name hname).2
  obtain ⟨env,hrun,hextends⟩ := hruns initial [] (if_pos rfl) hunbound
  have himports : ∀ b ∈ p.imports host, env b.1 = some b.2 :=
    fun b hb => hextends.bound b (List.mem_append_left _ hb)
  have hvalues : ∀ name ∈ p.importLocals, env name = some (p.localValue host name) :=
    fun name hname => himports _ (localValue_mem hlinks host hname)
  have hliteral := Export.eval_literal host (hexports env hextends.bound hvalues) p.span p.requests
  refine ⟨⟨env,p.requests⟩,?_,rfl,himports⟩
  rw [lower_body,runBody]
  refine (run_append hrun).trans ?_
  exact run_return hliteral p.span []

def attributeClause (key value : String) : Node :=
  let literal : StringLiteral := .plain value .nowhere
  .node .nowhere .object [.many [.node .nowhere .keyValue
    [.leaf .nowhere (.propertyName key),literal.toNode]]]

/-- Exports of a local under a name that objects treat in a special way and under a string, before
the local is imported; a star with an attribute, a re-export and an exported alias. -/
def linkedItems : Program :=
  let id (name : String) : Ident := .named name .nowhere
  let module (name : String) : StringLiteral := .plain name .nowhere
  ⟨.module,.nowhere,
    [ .node .nowhere (.exportNamed
        [.named .nowhere (.ident (id "x")) (some (.ident (id "__proto__"))) false,
          .named .nowhere (.ident (id "ns")) (some (.string (module "all of m"))) false] none false)
        [.absent],
      .node .nowhere (.importDeclaration [.default .nowhere (id "x"),.whole .nowhere (id "ns")]
        (module "m") false .evaluation) [.absent],
      .node .nowhere (.exportAll (module "s") false) [attributeClause "type" "json"],
      .node .nowhere (.exportNamed [.named .nowhere (.ident (id "default")) (some (.ident (id "y")))
        false] (some (module "r")) false) [.absent],
      .node .nowhere (.importEquals true false (id "z"))
        [.node .nowhere (.externalModule (module "q")) []] ],none⟩

def specifierHost : Host :=
  ⟨.null,fun _ => .null,fun call key =>
    if key = "default" ∨ key = "y" ∨ key = "w" then some (.text call.specifier) else none⟩

theorem linkedItems_plain : ∀ call ∈ linkedItems.requests, call.IsPlain := by
  have hclause : ∀ own, attributesOf (attributeClause "type" "json") = some own →
      own "__proto__" = none := by
    rintro own ⟨⟩
    rfl
  exact List.forall_mem_cons.mpr ⟨requestOf_absent_isPlain _,List.forall_mem_cons.mpr ⟨hclause,
    List.forall_mem_cons.mpr ⟨requestOf_absent_isPlain _,List.forall_mem_singleton.mpr
      (requestOf_absent_isPlain _)⟩⟩⟩

theorem linkedItems_evaluates :
    ∃ body state, (linkedItems.toFunctionBody {}).result = .ok body ∧
      runBody specifierHost "$import" body.body =
        some (linkedItems.namespaceObject specifierHost,state) ∧
      state.calls.map (·.specifier) = ["m","s","r","q"] ∧
      state.calls.map (fun call => call.attributes.bind (· "type")) =
        [none,some (.text "json"),none,none] ∧
      state.env "x" = some (.text "m") ∧
      ["__proto__","w","y","default"].map (linkedItems.namespaceObject specifierHost).get =
        [.text "m",.text "s",.text "r",.undefined] := by
  have hok : (linkedItems.toFunctionBody {}).result =
      .ok (linkedItems.lower "$import" (.ofProgram linkedItems "$import")).result :=
    toFunctionBody_eq_ok.mpr ⟨rfl,by decide,by decide,rfl⟩
  obtain ⟨state,hrun,hcalls,himports⟩ := toFunctionBody_evaluates specifierHost {} linkedItems _
    (by decide) (by decide) linkedItems_plain hok
  refine ⟨_,state,hok,hrun,?_,?_,himports ("x",.text "m") ?_,rfl⟩
  · rw [hcalls]
    rfl
  · rw [hcalls]
    rfl
  · exact List.mem_cons_self

/-- `import x from "m" with { __proto__: "v" };` -/
def prototypeAttribute : Program :=
  ⟨.module,.nowhere,[.node .nowhere (.importDeclaration
    [.default .nowhere (.named "x" .nowhere)] (.plain "m" .nowhere) false .evaluation)
      [attributeClause "__proto__" "v"]],none⟩

def attributesHost : Host :=
  ⟨.null,fun _ => .null,fun call _ => call.attributes.bind (· "__proto__")⟩

/-- An attribute whose key sets the prototype does not reach the hook: the local is not bound to the
export of the module that the import asks for. -/
theorem prototypeAttribute_lost :
    prototypeAttribute.links = true ∧ prototypeAttribute.importLocals.Nodup ∧
      ∃ body state, (prototypeAttribute.toFunctionBody {}).result = .ok body ∧
        runBody attributesHost "$import" body.body =
          some (prototypeAttribute.namespaceObject attributesHost,state) ∧
        state.calls ≠ prototypeAttribute.requests ∧
        prototypeAttribute.imports attributesHost = [("x",.text "v")] ∧
        state.env "x" = some .undefined := by
  have hok : (prototypeAttribute.toFunctionBody {}).result =
      .ok (prototypeAttribute.lower "$import" (.ofProgram prototypeAttribute "$import")).result :=
    toFunctionBody_eq_ok.mpr ⟨rfl,by decide,by decide,rfl⟩
  refine ⟨by decide,by decide,_,_,hok,rfl,fun h => ?_,rfl,rfl⟩
  have hattributes := congrArg (List.map fun call => call.attributes.map (· "__proto__")) h
  cases hattributes

end Program

end AsyncBody
