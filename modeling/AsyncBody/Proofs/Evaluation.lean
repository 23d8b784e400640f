import AsyncBody.Tree.Basic
import Mathlib.Data.List.Forall2
import Mathlib.Data.List.Nodup

/-!
What function bodies compute, for the part of the language that declarations of modules are lowered
to: constants, patterns of objects, object literals and calls of the hook.
-/
namespace AsyncBody.Execution

/-- Values. An object has a prototype and properties of its own; functions, numbers and what else
programs pass around are `other`. -/
inductive Value where
  | undefined
  | null
  | text (value : String)
  | hook
  | promise (result : Value)
  | object (prototype : Value) (own : String → Option Value)
  | other (id : Nat)

abbrev Properties := String → Option Value

namespace Value

/-- The property that reading an object gives: its own or an inherited one. -/
def get : Value → String → Value
  | .object prototype own, key =>
    match own key with
    | some value => value
    | none => prototype.get key
  | _, _ => .undefined

def awaited : Value → Value
  | .promise result => result
  | value => value

end Value

/-- A call of the hook: a specifier, and attributes if there are any. -/
structure Call where
  specifier : String
  attributes : Option Properties

/-- What a body runs in: the prototype of plain objects, and what the hook loads, an object given by
its prototype and its own properties. -/
structure Host where
  root : Value
  prototypeOf : Call → Value
  ownOf : Call → Properties

def Host.load (host : Host) (call : Call) : Value :=
  .object (host.prototypeOf call) (host.ownOf call)

def Host.plain (host : Host) (own : Properties) : Value := .object host.root own

abbrev Env := String → Option Value

def Env.declare (env : Env) (name : String) (value : Value) : Option Env :=
  match env name with
  | some _ => none
  | none => some fun x => if x = name then some value else env x

structure State where
  env : Env
  calls : List Call

def Properties.define (own : Properties) (key : String) (value : Value) : Properties :=
  fun k => if k = key then some value else own k

def Properties.copy (own source : Properties) : Properties :=
  fun k => (source k).or (own k)

def Properties.without (own : Properties) (keys : List String) : Properties :=
  fun k => if k ∈ keys then none else own k

def callOf : List Value → Option Call
  | [.text specifier] => some ⟨specifier,none⟩
  | [.text specifier, .object _ options] =>
    match options "with" with
    | some (.object _ attributes) => some ⟨specifier,some attributes⟩
    | _ => none
  | _ => none

def apply (host : Host) (callee : Value) (arguments : List Value) (calls : List Call) :
    Option (Value × List Call) :=
  match callee with
  | .hook => (callOf arguments).map fun call => (.promise (host.load call),calls ++ [call])
  | _ => none

/-- `key: value` in a literal, where the plain key `__proto__` sets the prototype to an object and
has no effect otherwise. -/
def setProperty (key : String) (value : Value) (object : Value × Properties) :
    Value × Properties :=
  if key = "__proto__" then
    match value with
    | .object .. | .null => (value,object.2)
    | _ => object
  else (object.1,object.2.define key value)

mutual

/-- The value of an expression, and the calls of the hook after those before it. There is none if
the expression fails or is of another kind. -/
def eval (host : Host) (env : Env) (calls : List Call) : Node → Option (Value × List Call)
  | .node _ (.ident _ name _) _ => (env name).map fun value => (value,calls)
  | .node _ (.string value _) _ => some (.text value,calls)
  | .node _ .await [argument] => do
    let (value,calls) ← eval host env calls argument
    return (value.awaited,calls)
  | .node _ (.call _) [callee,.many arguments,_] => do
    let (callee,calls) ← eval host env calls callee
    let (arguments,calls) ← evalArguments host env calls arguments
    apply host callee arguments calls
  | .node _ .object [.many properties] => do
    let ((prototype,own),calls) ←
      evalProperties host env calls (host.root,fun _ => none) properties
    return (.object prototype own,calls)
  | _ => none

def evalArguments (host : Host) (env : Env) (calls : List Call) :
    List Node → Option (List Value × List Call)
  | [] => some ([],calls)
  | .node _ (.argument none) [argument] :: rest => do
    let (value,calls) ← eval host env calls argument
    let (values,calls) ← evalArguments host env calls rest
    return (value::values,calls)
  | _ => none

def evalProperties (host : Host) (env : Env) (calls : List Call) (object : Value × Properties) :
    List Node → Option ((Value × Properties) × List Call)
  | [] => some (object,calls)
  | .node _ (.spread _) [argument] :: rest => do
    let (value,calls) ← eval host env calls argument
    match value with
    | .object _ source => evalProperties host env calls (object.1,object.2.copy source) rest
    | _ => none
  | .node _ (.ident _ name _) _ :: rest => do
    let value ← env name
    evalProperties host env calls (object.1,object.2.define name value) rest
  | .node _ .keyValue [.node _ (.propertyName key) _,argument] :: rest => do
    let (value,calls) ← eval host env calls argument
    evalProperties host env calls (setProperty key value object) rest
  | .node _ .keyValue [.node _ (.string key _) _,argument] :: rest => do
    let (value,calls) ← eval host env calls argument
    evalProperties host env calls (setProperty key value object) rest
  | .node _ .keyValue [.node _ .computed [computed],argument] :: rest => do
    let (key,calls) ← eval host env calls computed
    let (value,calls) ← eval host env calls argument
    match key with
    | .text key => evalProperties host env calls (object.1,object.2.define key value) rest
    | _ => none
  | _ => none

end

/-- Binds what the properties of a pattern read from an object; `seen` are the keys read before. A
rest takes the object's own properties but for those. -/
def bindProperties (host : Host) (prototype : Value) (own : Properties) (seen : List String) :
    List Node → Env → Option Env
  | [], env => some env
  | .node _ .keyValuePattern
      [.node _ (.propertyName key) _,.node _ (.binding _ name _) _] :: rest, env => do
    let env ← env.declare name ((Value.object prototype own).get key)
    bindProperties host prototype own (key::seen) rest env
  | .node _ .keyValuePattern
      [.node _ (.string key _) _,.node _ (.binding _ name _) _] :: rest, env => do
    let env ← env.declare name ((Value.object prototype own).get key)
    bindProperties host prototype own (key::seen) rest env
  | .node _ .shorthandPattern [.node _ (.binding _ name _) _,.absent] :: rest, env => do
    let env ← env.declare name ((Value.object prototype own).get name)
    bindProperties host prototype own (name::seen) rest env
  | [.node _ (.restElement _) [.node _ (.binding _ name _) _,_]], env =>
    env.declare name (host.plain (own.without seen))
  | _, _ => none

def bindPattern (host : Host) (value : Value) : Node → Env → Option Env
  | .node _ (.binding _ name _) _, env => env.declare name value
  | .node _ (.objectPattern _) [.many properties,_], env =>
    match value with
    | .object prototype own => bindProperties host prototype own [] properties env
    | _ => none
  | _, _ => none

def runDeclarators (host : Host) : List Node → State → Option State
  | [], state => some state
  | .node _ (.declarator _) [pattern,init] :: rest, state => do
    let (value,calls) ← eval host state.env state.calls init
    let env ← bindPattern host value pattern state.env
    runDeclarators host rest ⟨env,calls⟩
  | _, _ => none

def runStatement (host : Host) : Node → State → Option State
  | .node _ .expressionStatement [expression], state => do
    let (_,calls) ← eval host state.env state.calls expression
    return ⟨state.env,calls⟩
  | .node _ (.variableDeclaration _ .const false) [.many declarators], state =>
    runDeclarators host declarators state
  | _, _ => none

def runStatements (host : Host) : List Node → State → Option State
  | [], state => some state
  | statement :: rest, state => do runStatements host rest (← runStatement host statement state)

/-- Runs statements up to the first `return`, and gives the value returned and the last state. -/
def run (host : Host) : List Node → State → Option (Value × State)
  | [], state => some (.undefined,state)
  | .node _ .returnStatement [argument] :: _, state => do
    let (value,calls) ← eval host state.env state.calls argument
    return (value,⟨state.env,calls⟩)
  | statement :: rest, state => do run host rest (← runStatement host statement state)

def runBody (host : Host) (hook : String) (statements : List Node) : Option (Value × State) :=
  run host statements ⟨fun x => if x = hook then some .hook else none,[]⟩

namespace Env

structure Extends (env env' : Env) (new : List (String × Value)) : Prop where
  bound : ∀ b ∈ new, env' b.1 = some b.2
  kept : ∀ x, x ∉ new.map Prod.fst → env' x = env x

structure Unbound (env : Env) (new : List (String × Value)) : Prop where
  none : ∀ b ∈ new, env b.1 = none
  nodup : (new.map Prod.fst).Nodup

variable {env env' env'' : Env} {new more : List (String × Value)}

namespace Extends

theorem refl (env : Env) : env.Extends env [] :=
  ⟨fun _ hb => absurd hb List.not_mem_nil,fun _ _ => rfl⟩

theorem trans (h : env.Extends env' new) (h' : env'.Extends env'' more)
    (hunbound : env.Unbound (new++more)) : env.Extends env'' (new++more) := by
  have hnodup := hunbound.nodup
  rw [List.map_append] at hnodup
  refine ⟨?_,?_⟩
  · intro b hb
    rcases List.mem_append.mp hb with hb | hb
    · have hdisjoint : b.1 ∉ more.map Prod.fst := fun hmore =>
        List.disjoint_of_nodup_append hnodup (List.mem_map_of_mem hb) hmore
      rw [h'.kept _ hdisjoint,h.bound b hb]
    · exact h'.bound b hb
  · intro x hx
    rw [List.map_append,List.mem_append,not_or] at hx
    rw [h'.kept x hx.2,h.kept x hx.1]

theorem perm (h : env.Extends env' new) (hperm : more.Perm new) : env.Extends env' more := by
  refine ⟨fun b hb => h.bound b (hperm.mem_iff.mp hb),fun x hx => h.kept x fun hnew => hx ?_⟩
  exact (hperm.map Prod.fst).mem_iff.mpr hnew

theorem some_of_some (h : env.Extends env' new) (hunbound : env.Unbound new) {x : String}
    {value : Value} (hx : env x = some value) : env' x = some value := by
  refine (h.kept x fun hmem => ?_).trans hx
  obtain ⟨b,hb,rfl⟩ := List.mem_map.mp hmem
  rw [hunbound.none b hb] at hx
  cases hx

end Extends

namespace Unbound

theorem perm (h : env.Unbound new) (hperm : more.Perm new) : env.Unbound more :=
  ⟨fun b hb => h.none b (hperm.mem_iff.mp hb),(hperm.map Prod.fst).nodup_iff.mpr h.nodup⟩

theorem left (h : env.Unbound (new++more)) : env.Unbound new := by
  have hnodup := h.nodup
  rw [List.map_append] at hnodup
  exact ⟨fun b hb => h.none b (List.mem_append_left _ hb),hnodup.of_append_left⟩

theorem after (h : env.Unbound (new++more)) (hextends : env.Extends env' new) :
    env'.Unbound more := by
  have hnodup := h.nodup
  rw [List.map_append] at hnodup
  refine ⟨fun b hb => ?_,hnodup.of_append_right⟩
  have hkept : b.1 ∉ new.map Prod.fst := fun hmem =>
    List.disjoint_of_nodup_append hnodup hmem (List.mem_map_of_mem hb)
  rw [hextends.kept _ hkept]
  exact h.none b (List.mem_append_right _ hb)

end Unbound

theorem declare_of_unbound {name : String} {value : Value} (h : env.Unbound [(name,value)]) :
    ∃ env', env.declare name value = some env' ∧ env.Extends env' [(name,value)] := by
  have hname : env name = Option.none := h.none _ (List.mem_singleton.mpr rfl)
  refine ⟨fun x => if x = name then some value else env x,by rw [declare,hname],?_,?_⟩
  · intro b hb
    obtain rfl := List.mem_singleton.mp hb
    exact if_pos rfl
  · intro x hx
    exact if_neg fun hname => hx (List.mem_singleton.mpr hname)

end Env

section Running

variable {host : Host}

theorem eval_reference {env : Env} {id : Ident} {value : Value} (h : env id.name = some value)
    (calls : List Call) : eval host env calls id.reference = some (value,calls) := by
  show (env id.name).map _ = _
  rw [h]
  rfl

theorem runStatements_append (first rest : List Node) (state : State) :
    runStatements host (first++rest) state =
      (runStatements host first state).bind (runStatements host rest) := by
  induction first generalizing state with
  | nil => rfl
  | cons statement first ih =>
    rw [List.cons_append,runStatements,runStatements]
    cases runStatement host statement state with
    | none => rfl
    | some next => exact ih next

theorem run_return {argument : Node} {state : State} {value : Value} {calls : List Call}
    (h : eval host state.env state.calls argument = some (value,calls)) (span : Span)
    (rest : List Node) : run host (.node span .returnStatement [argument] :: rest) state =
      some (value,⟨state.env,calls⟩) := by
  rw [run,h]
  rfl

theorem run_cons {statement : Node} {rest : List Node} {state next : State}
    (h : runStatement host statement state = some next) :
    run host (statement::rest) state = run host rest next := by
  have hrun : run host (statement::rest) state =
      (runStatement host statement state).bind (run host rest) := by
    unfold runStatement at h
    split at h
    · rfl
    · rfl
    · cases h
  rw [hrun,h]
  rfl

theorem run_append {first rest : List Node} {state next : State}
    (h : runStatements host first state = some next) :
    run host (first++rest) state = run host rest next := by
  induction first generalizing state with
  | nil =>
    obtain rfl := Option.some.inj h
    rfl
  | cons statement first ih =>
    rw [runStatements] at h
    cases hstatement : runStatement host statement state with
    | none =>
      rw [hstatement] at h
      cases h
    | some middle =>
      rw [hstatement] at h
      rw [List.cons_append,run_cons hstatement]
      exact ih h

end Running

section Patterns

variable {host : Host} {prototype : Value} {own : Properties}

inductive Reads : Node → String → String → Prop where
  | plain {span place at_ : Span} {key name : String} {ctxt : Nat} {optional : Bool}
      {inner parts : List Node} :
      Reads (.node span .keyValuePattern
        [.node place (.propertyName key) inner,.node at_ (.binding ctxt name optional) parts]) key name
  | quoted {span place at_ : Span} {key name : String} {raw : Option String} {ctxt : Nat}
      {optional : Bool} {inner parts : List Node} :
      Reads (.node span .keyValuePattern
        [.node place (.string key raw) inner,.node at_ (.binding ctxt name optional) parts]) key name
  | shorthand {span at_ : Span} {name : String} {ctxt : Nat} {optional : Bool}
      {parts : List Node} :
      Reads (.node span .shorthandPattern [.node at_ (.binding ctxt name optional) parts,.absent])
        name name

theorem bindProperties_cons {property : Node} {key name : String} (h : Reads property key name)
    (seen : List String) (rest : List Node) (env : Env) :
    bindProperties host prototype own seen (property::rest) env =
      (env.declare name ((Value.object prototype own).get key)).bind
        (bindProperties host prototype own (key::seen) rest) := by
  cases h <;> rfl

/-- Properties that read into new names bind each to what it reads. -/
theorem bindProperties_extends {properties : List Node} {reads : List (String × String)}
    (h : List.Forall₂ (fun property r => Reads property r.1 r.2) properties reads)
    (seen : List String) {env : Env}
    (hunbound : env.Unbound (reads.map fun r => (r.2,(Value.object prototype own).get r.1))) :
    ∃ env', bindProperties host prototype own seen properties env = some env' ∧
      env.Extends env' (reads.map fun r => (r.2,(Value.object prototype own).get r.1)) := by
  induction h generalizing seen env with
  | nil => exact ⟨env,rfl,.refl env⟩
  | @cons property r properties reads hfirst _ ih =>
    rw [List.map_cons,← List.singleton_append] at hunbound
    obtain ⟨middle,hdeclare,hmiddle⟩ := Env.declare_of_unbound hunbound.left
    obtain ⟨env',hbind,henv'⟩ := ih (r.1::seen) (hunbound.after hmiddle)
    refine ⟨env',?_,?_⟩
    · rw [bindProperties_cons hfirst,hdeclare]
      exact hbind
    · rw [List.map_cons,← List.singleton_append]
      exact hmiddle.trans henv' hunbound

end Patterns

end AsyncBody.Execution
