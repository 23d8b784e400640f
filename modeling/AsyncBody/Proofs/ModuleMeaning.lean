import AsyncBody.Proofs.Evaluation
import AsyncBody.Proofs.LoweredNames

/-!
The meaning of modules made of imports and exports: which modules they ask for, what their locals
are bound to, and the object of their exports; and how a request for a module is evaluated.
-/
namespace AsyncBody

open Execution

section Attributes

def attribute? : Node → Option (String × String)
  | .node _ .keyValue [.node _ (.propertyName key) [], .node _ (.string value _) []] =>
    some (key,value)
  | .node _ .keyValue [.node _ (.string key _) [], .node _ (.string value _) []] =>
    some (key,value)
  | _ => none

def isAttributes : Node → Bool
  | .absent => true
  | .node _ .object [.many entries] => entries.all fun entry => (attribute? entry).isSome
  | _ => false

def defineAll (own : Properties) (entries : List (String × String)) : Properties :=
  entries.foldl (fun own entry => own.define entry.1 (.text entry.2)) own

/-- The attributes that a clause gives. It is no object literal: each of its keys is an
attribute. -/
def attributesOf : Node → Option Properties
  | .node _ .object [.many entries] =>
    some (defineAll (fun _ => none) (entries.filterMap attribute?))
  | _ => none

end Attributes

def requestOf (source : StringLiteral) (attributes : Node) : Call :=
  ⟨source.value,attributesOf attributes⟩

/-- No attribute has the key that sets the prototype in an object literal. -/
def Execution.Call.IsPlain (call : Call) : Prop :=
  ∀ own, call.attributes = some own → own "__proto__" = none

theorem requestOf_absent_isPlain (source : StringLiteral) : (requestOf source .absent).IsPlain :=
  nofun

/-- The export that a specifier imports; `none` is the module object as a whole. -/
def ImportSpecifier.key : ImportSpecifier → Option String
  | .named _ bound imported _ => some (imported.getD (.ident bound)).text
  | .default _ _ => some "default"
  | .whole _ _ => none

theorem ImportSpecifier.isWhole_eq (s : ImportSpecifier) : s.isWhole = s.key.isNone := by
  cases s <;> rfl

namespace ExportSpecifier

def key : ExportSpecifier → Option String
  | .named _ inner _ _ => some inner.text
  | .default _ => some "default"
  | .whole _ _ => none

def exportedName : ExportSpecifier → String
  | .named _ inner exported _ => (exported.getD inner).text
  | .default exported => exported.name
  | .whole _ exported => exported.text

def local? : ExportSpecifier → Option Ident
  | .named _ (.ident value) _ false => some value
  | _ => none

theorem isWhole_eq (s : ExportSpecifier) : s.isWhole = s.key.isNone := by
  cases s <;> rfl

end ExportSpecifier

/-- An export of a module: a value under a name, or all that an object holds. -/
inductive Exported where
  | named (key : String) (value : Value)
  | star (own : Properties)

def Execution.Value.take (value : Value) : Option String → Value
  | none => value
  | some key => value.get key

namespace Node

def importLocals : Node → List String
  | .node _ (.importDeclaration specifiers ..) _ => specifiers.map (·.bound.name)
  | .node _ (.importEquals _ _ name) _ => [name.name]
  | _ => []

/-- Imports and exports of values, local exports of imported locals only. -/
def links (locals : List String) : Node → Bool
  | .node _ (.importDeclaration specifiers _ false .evaluation) [attributes] =>
    specifiers.all (! ·.isType) && specifiers.countP (·.isWhole) ≤ 1 && isAttributes attributes
  | .node _ (.exportNamed specifiers (some _) false) [attributes] =>
    specifiers.all (! ·.isType) && specifiers.countP (·.isWhole) ≤ 1 && isAttributes attributes
  | .node _ (.exportNamed specifiers none false) [_] =>
    specifiers.all fun s => s.local?.any (locals.contains ·.name)
  | .node _ (.exportAll _ false) [attributes] => isAttributes attributes
  | .node _ (.importEquals _ false _) [.node _ (.externalModule _) []] => true
  | _ => false

def requests : Node → List Call
  | .node _ (.importDeclaration _ source ..) [attributes] => [requestOf source attributes]
  | .node _ (.exportNamed _ (some source) _) [attributes] => [requestOf source attributes]
  | .node _ (.exportAll source _) [attributes] => [requestOf source attributes]
  | .node _ (.importEquals ..) [.node _ (.externalModule source) _] => [⟨source.value,none⟩]
  | _ => []

def imports (host : Host) : Node → List (String × Value)
  | .node _ (.importDeclaration specifiers source ..) [attributes] =>
    specifiers.map fun s => (s.bound.name,(host.load (requestOf source attributes)).take s.key)
  | .node _ (.importEquals _ _ name) [.node _ (.externalModule source) _] =>
    [(name.name,host.load ⟨source.value,none⟩)]
  | _ => []

/-- What an item exports, given the values of the locals. A star leaves the default export out. -/
def exportsOf (host : Host) (value : String → Value) : Node → List Exported
  | .node _ (.exportNamed specifiers (some source) _) [attributes] =>
    specifiers.map fun s =>
      .named s.exportedName ((host.load (requestOf source attributes)).take s.key)
  | .node _ (.exportNamed specifiers none _) _ =>
    specifiers.filterMap fun s => s.local?.map fun name => .named s.exportedName (value name.name)
  | .node _ (.exportAll source _) [attributes] =>
    [.star ((host.ownOf (requestOf source attributes)).without ["default"])]
  | .node _ (.importEquals true _ name) [.node _ (.externalModule source) _] =>
    [.named name.name (host.load ⟨source.value,none⟩)]
  | _ => []

end Node

/-- The properties of a table of exports: under a name that is exported, the last value under it;
under another, what the last star says that has it. -/
def Exported.properties (table : List Exported) : Properties := fun key =>
  (table.reverse.findSome? fun
    | .named name value => if name = key then some value else none
    | .star _ => none).or
  (table.reverse.findSome? fun
    | .named .. => none
    | .star own => own key)

namespace Program

def importLocals (p : Program) : List String := p.body.flatMap Node.importLocals

/-- Whether a program imports and exports values, exports locally what it imports, and does nothing
else. -/
def links (p : Program) : Bool := p.body.all (·.links p.importLocals)

def imports (host : Host) (p : Program) : List (String × Value) := p.body.flatMap (·.imports host)

def requests (p : Program) : List Call := p.body.flatMap Node.requests

def localValue (host : Host) (p : Program) (name : String) : Value :=
  ((p.imports host).lookup name).getD .undefined

def namespaceObject (host : Host) (p : Program) : Value :=
  host.plain (Exported.properties (p.body.flatMap (·.exportsOf host (p.localValue host))))

end Program

inductive Node.Linking (locals : List String) : Node → Prop where
  | importDeclaration {span : Span} {specifiers : List ImportSpecifier} {source : StringLiteral}
      {attributes : Node} (htypes : ∀ s ∈ specifiers, s.isType = false)
      (hwhole : specifiers.countP (·.isWhole) ≤ 1) (hattributes : isAttributes attributes = true) :
      Linking locals (.node span (.importDeclaration specifiers source false .evaluation) [attributes])
  | reexport {span : Span} {specifiers : List ExportSpecifier} {source : StringLiteral}
      {attributes : Node} (htypes : ∀ s ∈ specifiers, s.isType = false)
      (hwhole : specifiers.countP (·.isWhole) ≤ 1) (hattributes : isAttributes attributes = true) :
      Linking locals (.node span (.exportNamed specifiers (some source) false) [attributes])
  | locals {span : Span} {specifiers : List ExportSpecifier} {part : Node}
      (hlocals : ∀ s ∈ specifiers, s.local?.any (locals.contains ·.name) = true) :
      Linking locals (.node span (.exportNamed specifiers none false) [part])
  | star {span : Span} {source : StringLiteral} {attributes : Node}
      (hattributes : isAttributes attributes = true) :
      Linking locals (.node span (.exportAll source false) [attributes])
  | require {span place : Span} {isExport : Bool} {name : Ident} {source : StringLiteral} :
      Linking locals (.node span (.importEquals isExport false name)
        [.node place (.externalModule source) []])

theorem Node.linking {locals : List String} {n : Node} (h : n.links locals = true) :
    n.Linking locals := by
  unfold links at h
  split at h
  · simp only [Bool.and_eq_true,List.all_eq_true,Bool.not_eq_true',decide_eq_true_eq] at h
    exact .importDeclaration h.1.1 h.1.2 h.2
  · simp only [Bool.and_eq_true,List.all_eq_true,Bool.not_eq_true',decide_eq_true_eq] at h
    exact .reexport h.1.1 h.1.2 h.2
  · exact .locals (List.all_eq_true.mp h)
  · exact .star h
  · exact .require
  · cases h

section Requests

variable (host : Host) (env : Env) (hook : String)

theorem attribute?_cases {n : Node} (h : (attribute? n).isSome = true) :
    ∃ span place at_ value raw key, attribute? n = some (key,value) ∧
      (n = .node span .keyValue
          [.node place (.propertyName key) [],.node at_ (.string value raw) []] ∨
        ∃ keyRaw, n = .node span .keyValue
          [.node place (.string key keyRaw) [],.node at_ (.string value raw) []]) := by
  unfold attribute? at h
  split at h
  · exact ⟨_,_,_,_,_,_,rfl,.inl rfl⟩
  · exact ⟨_,_,_,_,_,_,rfl,.inr ⟨_,rfl⟩⟩
  · cases h

theorem entries_route {entries : List Node}
    (h : ∀ entry ∈ entries, (attribute? entry).isSome = true) :
    (Node.routeAll hook entries).result = entries := by
  rw [Node.routeAll_result]
  refine (List.map_congr_left fun entry hentry => ?_).trans (List.map_id entries)
  obtain ⟨_,_,_,_,_,_,-,rfl | ⟨_,rfl⟩⟩ := attribute?_cases (h entry hentry) <;> rfl

theorem attributes_route {n : Node} (h : isAttributes n = true) :
    (Node.route hook n).result = n := by
  unfold isAttributes at h
  split at h
  · rfl
  · rename_i span entries
    have hentries := entries_route hook (List.all_eq_true.mp h)
    show Node.node span .object [.many (Node.routeAll hook entries).result] = _
    rw [hentries]
  · cases h

theorem setProperty_of_ne {key : String} (h : key ≠ "__proto__") (value : Value)
    (object : Value × Properties) :
    setProperty key value object = (object.1,object.2.define key value) := if_neg h

theorem defineAll_eq_none_iff {own : Properties} {entries : List (String × String)} {key : String} :
    defineAll own entries key = none ↔ own key = none ∧ ∀ entry ∈ entries, entry.1 ≠ key := by
  induction entries generalizing own with
  | nil => simp [defineAll]
  | cons entry rest ih =>
    rw [defineAll,List.foldl_cons,← defineAll,ih,List.forall_mem_cons,← and_assoc]
    refine and_congr_left fun _ => ?_
    by_cases hkey : key = entry.1
    · simp [Properties.define,hkey]
    · simp [Properties.define,hkey,Ne.symm hkey]

/-- A literal of attributes defines them one after another, if none sets the prototype. -/
theorem evalProperties_entries {entries : List Node}
    (h : ∀ entry ∈ entries, (attribute? entry).isSome = true)
    (hplain : ∀ entry ∈ entries.filterMap attribute?, entry.1 ≠ "__proto__")
    (object : Value × Properties) (calls : List Call) :
    evalProperties host env calls object entries =
      some ((object.1,defineAll object.2 (entries.filterMap attribute?)),calls) := by
  induction entries generalizing object with
  | nil => rfl
  | cons entry rest ih =>
    have hrest := fun e he => h e (List.mem_cons_of_mem _ he)
    obtain ⟨_,_,_,value,_,key,hentry,hshape⟩ := attribute?_cases (h entry List.mem_cons_self)
    have hstep : evalProperties host env calls object (entry::rest) =
        evalProperties host env calls (setProperty key (.text value) object) rest := by
      rcases hshape with rfl | ⟨_,rfl⟩ <;> rfl
    rw [List.filterMap_cons_some hentry,List.forall_mem_cons] at hplain
    rw [hstep,setProperty_of_ne hplain.1,ih hrest hplain.2,List.filterMap_cons_some hentry]
    rfl

theorem eval_attributes {n : Node} (h : isAttributes n = true) (hpresent : n.isPresent = true)
    (hplain : ∀ own, attributesOf n = some own → own "__proto__" = none) (calls : List Call) :
    ∃ own, attributesOf n = some own ∧ eval host env calls n = some (host.plain own,calls) := by
  unfold isAttributes at h
  split at h
  · cases hpresent
  · rename_i span entries
    refine ⟨_,rfl,?_⟩
    have hentries := evalProperties_entries host env (List.all_eq_true.mp h)
      (defineAll_eq_none_iff.mp (hplain _ rfl)).2 (host.root,fun _ => none) calls
    rw [eval,hentries]
    rfl
  · cases h

theorem eval_options {attributes : Node} (h : isAttributes attributes = true)
    (hpresent : attributes.isPresent = true)
    (hplain : ∀ own, attributesOf attributes = some own → own "__proto__" = none)
    (calls : List Call) :
    ∃ own options, attributesOf attributes = some own ∧
      eval host env calls (Lowering.Request.options attributes) = some (host.plain options,calls) ∧
      options "with" = some (host.plain own) := by
  obtain ⟨own,hown,heval⟩ := eval_attributes host env h hpresent hplain calls
  refine ⟨own,Properties.define (fun _ => none) "with" (host.plain own),hown,?_,if_pos rfl⟩
  have hkey : "with" ≠ "__proto__" := by decide
  simp only [Lowering.Request.options,Node.leaf,eval,evalProperties,heval,setProperty_of_ne hkey,
    Option.bind_eq_bind,Option.bind_some]
  rfl

theorem eval_arguments {attributes : Node} (h : isAttributes attributes = true)
    {source : StringLiteral} (hplain : (requestOf source attributes).IsPlain) (calls : List Call) :
    ∃ values, evalArguments host env calls (Lowering.Request.arguments ⟨source,attributes⟩) =
        some (values,calls) ∧ callOf values = some (requestOf source attributes) := by
  cases hpresent : attributes.isPresent with
  | false =>
    obtain rfl : attributes = .absent := by
      cases attributes with
      | absent => rfl
      | many => cases hpresent
      | node => cases hpresent
    exact ⟨[.text source.value],rfl,rfl⟩
  | true =>
    obtain ⟨own,options,hown,heval,hwith⟩ := eval_options host env h hpresent hplain calls
    refine ⟨[.text source.value,host.plain options],?_,?_⟩
    · have hargument : eval host env calls source.toNode = some (.text source.value,calls) := rfl
      simp only [Lowering.Request.arguments,hpresent,if_true,evalArguments,hargument,heval,
        Option.bind_eq_bind,Option.bind_some]
      rfl
    · simp only [callOf,Host.plain,requestOf,hown]
      rw [hwith]
      rfl

/-- Loading a module calls the hook once and gives what the hook loads. -/
theorem eval_load {env : Env} {hook : String} (hhook : env hook = some .hook) {attributes : Node}
    (h : isAttributes attributes = true) {source : StringLiteral}
    (hplain : (requestOf source attributes).IsPlain) (span : Span) (calls : List Call) :
    eval host env calls ((⟨source,attributes⟩ : Lowering.Request).load hook span) =
      some (host.load (requestOf source attributes),calls ++ [requestOf source attributes]) := by
  have hcallee : eval host env calls (Ident.named hook span).reference = some (.hook,calls) :=
    eval_reference hhook calls
  obtain ⟨values,hvalues,hcall⟩ := eval_arguments host env h hplain calls
  have happly : apply host .hook values calls =
      some (.promise (host.load (requestOf source attributes)),
        calls ++ [requestOf source attributes]) := by
    rw [apply,hcall]
    rfl
  simp only [Lowering.Request.load,eval,hcallee,hvalues,happly,Option.bind_eq_bind,Option.bind_some]
  rfl

end Requests

end AsyncBody
