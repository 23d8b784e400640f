import AsyncBody.Proofs.Scope

/-!
Trees whose scopes are those of ECMAScript in strict mode: which forms may stand where, and that
routing leaves such a tree one.
-/
namespace AsyncBody

namespace Node

inductive Place where
  | item
  | statements
  | statement
  | cases
  | case
  | default
  | elsewhere
deriving DecidableEq, Repr

end Node

open Node (Place)

/-- Whether a form may stand at a place in a program in strict mode that has no namespaces,
enumerations or parameter properties. Functions and classes are declared in lists of statements. -/
def Form.fits (place : Place) : Form → Bool
  | .functionDeclaration .. | .classDeclaration .. => place == .item || place == .statement
  | .exportDeclaration | .exportDefaultDeclaration => place == .item
  | .switchCase => place == .case
  | .functionExpression _ | .classExpression _ | .interfaceDeclaration .. => true
  | .moduleDeclaration .. | .namespaceDeclaration .. | .moduleBlock | .enumDeclaration ..
  | .parameterProperty .. | .withStatement => false
  | _ => place != .default

/-- The place of a part of a form, by the number of the parts and the index of the part. -/
def Form.placeOf : Form → Nat → Nat → Place
  | .block _, 1, 0 => .statements
  | .switchStatement, 2, 1 => .cases
  | .switchCase, 2, 1 => .statements
  | .exportDeclaration, 1, 0 => .statement
  | .exportDefaultDeclaration, 1, 0 => .default
  | _, _, _ => .elsewhere

def Node.Place.ofItems? : Place → Option Place
  | .statements => some .statement
  | .cases => some .case
  | .elsewhere => some .elsewhere
  | _ => none

def Node.isUsing : Node → Bool
  | .node _ (.usingDeclaration _) _ => true
  | _ => false

def Form.headUses (form : Form) (parts : List Node) : Bool :=
  (Scope.head? form parts).any Node.isUsing

namespace Node

open Hook

mutual

/-- Whether a tree at a place has scopes as in ECMAScript in strict mode only. -/
def ecmaScript (place : Place) : Node → Bool
  | .absent => true
  | .many items =>
    match place.ofItems? with
    | some place => ecmaScriptAll place items
    | none => false
  | .node _ form parts =>
    form.fits place && ! form.headUses parts && ecmaScriptParts form parts.length 0 parts

def ecmaScriptAll (place : Place) : List Node → Bool
  | [] => true
  | item :: rest => ecmaScript place item && ecmaScriptAll place rest

def ecmaScriptParts (form : Form) (count i : Nat) : List Node → Bool
  | [] => true
  | part :: rest =>
    ecmaScript (form.placeOf count i) part && ecmaScriptParts form count (i+1) rest

end

theorem ecmaScriptAll_iff {place : Place} {items : List Node} :
    ecmaScriptAll place items = true ↔ ∀ item ∈ items, item.ecmaScript place = true := by
  induction items with
  | nil => simp [ecmaScriptAll]
  | cons item rest ih => simp [ecmaScriptAll,ih]

theorem ecmaScriptParts_iff {form : Form} {count i : Nat} {parts : List Node} :
    ecmaScriptParts form count i parts = true ↔
      ∀ (j : Nat) (part : Node), parts[j]? = some part →
        part.ecmaScript (form.placeOf count (i+j)) = true := by
  induction parts generalizing i with
  | nil => simp [ecmaScriptParts]
  | cons part rest ih =>
    rw [ecmaScriptParts,Bool.and_eq_true,ih]
    constructor
    · rintro ⟨hpart,hrest⟩ j other hj
      cases j with
      | zero =>
        obtain rfl := Option.some.inj hj
        exact hpart
      | succ j =>
        rw [Nat.add_comm j,← Nat.add_assoc]
        exact hrest j other hj
    · intro h
      refine ⟨h 0 part rfl,fun j other hj => ?_⟩
      rw [Nat.add_assoc,Nat.add_comm 1]
      exact h (j+1) other hj

theorem ecmaScript_node_iff {place : Place} {span : Span} {form : Form} {parts : List Node} :
    (node span form parts).ecmaScript place = true ↔
      form.fits place = true ∧ form.headUses parts = false ∧
        ∀ (i : Nat) (part : Node), parts[i]? = some part →
          part.ecmaScript (form.placeOf parts.length i) = true := by
  rw [ecmaScript,Bool.and_eq_true,Bool.and_eq_true,ecmaScriptParts_iff,Bool.not_eq_true',and_assoc]
  simp only [Nat.zero_add]

theorem isUsing_route (hook : String) (n : Node) : (route hook n).result.isUsing = n.isUsing := by
  cases n with
  | absent => rfl
  | many items => rfl
  | node span form parts =>
    rw [apply_route hook isUsing (fun _ _ _ _ => rfl) fun _ _ => rfl]
    cases form with
    | _ => rfl

theorem headUses_route (hook : String) (form : Form) (parts : List Node) :
    form.headUses (routeAll hook parts).result = form.headUses parts := by
  have hhead : Scope.head? form (routeAll hook parts).result =
      (Scope.head? form parts).map fun n => (route hook n).result := by
    cases form with
    | forStatement | forInStatement | forOfStatement => cases parts <;> rfl
    | _ => rfl
  rw [Form.headUses,Form.headUses,hhead]
  cases Scope.head? form parts with
  | none => rfl
  | some head => exact isUsing_route hook head

theorem ecmaScript_route (hook : String) {n : Node} {place : Place}
    (h : n.ecmaScript place = true) : (route hook n).result.ecmaScript place = true := by
  induction n using Node.induction generalizing place with
  | absent => rfl
  | many items ih =>
    rw [route,ecmaScript,routeAll_result]
    rw [ecmaScript] at h
    cases hplace : place.ofItems? with
    | none => simp [hplace] at h
    | some place =>
      simp only [hplace,ecmaScriptAll_iff] at h ⊢
      intro item hitem
      obtain ⟨inner,hinner,rfl⟩ := List.mem_map.mp hitem
      exact ih inner hinner (h inner hinner)
  | node span form parts ih =>
    obtain ⟨hfits,hhead,hparts⟩ := ecmaScript_node_iff.mp h
    have hrouted : ∀ (i : Nat) (part : Node), (routeAll hook parts).result[i]? = some part →
        part.ecmaScript (form.placeOf parts.length i) = true := by
      intro i part hi
      rw [routeAll_result,List.getElem?_map,Option.map_eq_some_iff] at hi
      obtain ⟨inner,hinner,rfl⟩ := hi
      exact ih inner (List.mem_of_getElem? hinner) (hparts i inner hinner)
    have hlength : (routeAll hook parts).result.length = parts.length := by
      rw [routeAll_result,List.length_map]
    obtain ⟨hr,-⟩ | ⟨ctxt,place,inner,rest,rfl,rfl,hr⟩ | ⟨rfl,hr⟩ :=
      route_node_cases hook span form parts
    · rw [hr,ecmaScript_node_iff,headUses_route,hlength]
      exact ⟨hfits,hhead,hrouted⟩
    · rw [hr,ecmaScript_node_iff]
      refine ⟨hfits,rfl,fun i part hi => ?_⟩
      cases i with
      | zero =>
        obtain rfl := Option.some.inj hi
        rfl
      | succ i => exact hrouted (i+1) part hi
    · rw [hr,metaRead,ecmaScript_node_iff]
      refine ⟨hfits,rfl,fun i part hi => ?_⟩
      obtain _ | _ | i := i
      · obtain rfl := Option.some.inj hi
        rfl
      · obtain rfl := Option.some.inj hi
        rfl
      · cases hi

end Node

end AsyncBody
