import AsyncBody.Proofs.Bindings
import Mathlib.Data.List.Basic

/-!
The variables that are taken to hoist out of a tree: all that do hoist are among them, each of them
is mentioned in the tree, and routing changes none of them.
-/
namespace AsyncBody

namespace Node

open Hook

theorem collectedVarsAll_eq (items : List Node) :
    collectedVarsAll items = items.flatMap collectedVars := by
  induction items with
  | nil => rfl
  | cons item rest ih => rw [collectedVarsAll,ih,List.flatMap_cons]

theorem attributeVarsAll_eq (items : List Node) :
    attributeVarsAll items = items.flatMap attributeVars := by
  induction items with
  | nil => rfl
  | cons item rest ih => rw [attributeVarsAll,ih,List.flatMap_cons]

theorem collectedVars_node {span : Span} {form : Form} {parts : List Node}
    (h : ∀ ctxt kind declare, form ≠ .variableDeclaration ctxt kind declare) :
    (node span form parts).collectedVars =
      if form.isClosed then []
      else if form.holdsAttributes then attributeVarsAll parts
      else collectedVarsAll parts := by
  rw [collectedVars]
  exact h

theorem collectedVars_attributes {span : Span} {form : Form} {parts : List Node}
    (h : form.holdsAttributes = true) :
    (node span form parts).collectedVars = attributeVarsAll parts := by
  cases form with
  | importDeclaration | exportNamed | exportAll | importOptions => rfl
  | _ => cases h

theorem collectedVars_nested {span : Span} {form : Form} {parts : List Node}
    (h : form.nestsStatements = true) :
    (node span form parts).collectedVars = collectedVarsAll parts := by
  unfold Form.nestsStatements at h
  split at h
  all_goals first
    | rfl
    | cases h

theorem mem_collectedVars_of_hoistedVars {n : Node} {name : String} (h : name ∈ n.hoistedVars) :
    name ∈ n.collectedVars := by
  induction n using Node.induction with
  | absent => cases h
  | many items ih =>
    rw [hoistedVars,hoistedVarsAll_eq] at h
    rw [collectedVars,collectedVarsAll_eq]
    obtain ⟨item,hitem,h⟩ := List.mem_flatMap.mp h
    exact List.mem_flatMap.mpr ⟨item,hitem,ih item hitem h⟩
  | node span form parts ih =>
    by_cases hform : ∃ ctxt kind declare, form = .variableDeclaration ctxt kind declare
    · obtain ⟨ctxt,kind,declare,rfl⟩ := hform
      exact h
    · rw [hoistedVars_node fun c k d hcase => hform ⟨c,k,d,hcase⟩] at h
      split at h
      · rename_i hnests
        rw [hoistedVarsAll_eq] at h
        rw [collectedVars_nested hnests,collectedVarsAll_eq]
        obtain ⟨part,hpart,h⟩ := List.mem_flatMap.mp h
        exact List.mem_flatMap.mpr ⟨part,hpart,ih part hpart h⟩
      · cases h

section Routing

variable (hook : String)

/-- Routing keeps what is collected from a node, as it stands and as import attributes. -/
theorem collected_route (n : Node) :
    (route hook n).result.collectedVars = n.collectedVars ∧
      (route hook n).result.attributeVars = n.attributeVars := by
  have hall : ∀ items : List Node, (∀ item ∈ items,
      (route hook item).result.collectedVars = item.collectedVars ∧
        (route hook item).result.attributeVars = item.attributeVars) →
      collectedVarsAll (routeAll hook items).result = collectedVarsAll items ∧
        attributeVarsAll (routeAll hook items).result = attributeVarsAll items := by
    intro items h
    rw [routeAll_result,collectedVarsAll_eq,collectedVarsAll_eq,attributeVarsAll_eq,
      attributeVarsAll_eq,List.flatMap_map,List.flatMap_map]
    exact ⟨List.flatMap_congr fun item hitem => (h item hitem).1,
      List.flatMap_congr fun item hitem => (h item hitem).2⟩
  induction n using Node.induction with
  | absent => exact ⟨rfl,rfl⟩
  | many items ih =>
    rw [route,collectedVars,collectedVars,attributeVars,attributeVars,(hall items ih).1,
      (hall items ih).2]
    exact ⟨rfl,rfl⟩
  | node span form parts ih =>
    obtain ⟨hcollected,hattributes⟩ := hall parts ih
    rw [apply_route hook collectedVars (fun _ _ _ _ => rfl) fun _ _ => rfl,
      apply_route hook attributeVars (fun _ _ _ _ => rfl) fun _ _ => rfl]
    constructor
    · by_cases hform : ∃ ctxt kind declare, form = .variableDeclaration ctxt kind declare
      · obtain ⟨ctxt,kind,declare,rfl⟩ := hform
        rw [collectedVars,collectedVars,routeAll_result,List.flatMap_map]
        simp only [declaratorIdents_route]
      · rw [collectedVars_node fun c k d h => hform ⟨c,k,d,h⟩,hcollected,hattributes,
          collectedVars_node fun c k d h => hform ⟨c,k,d,h⟩]
    · cases form with
      | object => exact hattributes
      | getter | setter => exact hcollected
      | _ => rfl

@[simp] theorem collectedVars_route (n : Node) :
    (route hook n).result.collectedVars = n.collectedVars := (collected_route hook n).1

end Routing

theorem collected_mentioned {n : Node} {name : String}
    (h : name ∈ n.collectedVars ∨ name ∈ n.attributeVars) : name ∈ n.mentioned := by
  induction n using Node.induction with
  | absent => rcases h with h | h <;> cases h
  | many items ih =>
    rw [collectedVars,collectedVarsAll_eq,attributeVars,attributeVarsAll_eq] at h
    simp only [List.mem_flatMap] at h
    obtain ⟨item,hitem,h⟩ : ∃ item ∈ items, name ∈ item.collectedVars ∨ name ∈ item.attributeVars := by
      grind
    exact mem_mentioned_of_item hitem (ih item hitem h)
  | node span form parts ih =>
    have hparts : name ∈ collectedVarsAll parts ∨ name ∈ attributeVarsAll parts →
        name ∈ (node span form parts).mentioned := by
      rw [collectedVarsAll_eq,attributeVarsAll_eq,List.mem_flatMap,List.mem_flatMap,← exists_or]
      rintro ⟨part,h⟩
      rw [← and_or_left] at h
      refine mem_mentioned_of_part h.1 (ih part h.1 h.2) ?_
      rintro _ _ _ _ _ rfl
      rcases h.2 with h | h <;> cases h
    rcases h with h | h
    · by_cases hform : ∃ ctxt kind declare, form = .variableDeclaration ctxt kind declare
      · obtain ⟨ctxt,kind,declare,rfl⟩ := hform
        exact hoistedVars_mentioned h
      · rw [collectedVars_node fun c k d hcase => hform ⟨c,k,d,hcase⟩] at h
        split at h
        · cases h
        · split at h
          · exact hparts (.inr h)
          · exact hparts (.inl h)
    · cases form with
      | object => exact hparts (.inr h)
      | getter | setter => exact hparts (.inl h)
      | _ => cases h

end Node
end AsyncBody
