import AsyncBody.Bindings
import AsyncBody.Proofs.Routing

/-!
What patterns, declarations and nested `var` declarations bind is spelled in their trees, and
routing changes none of it.
-/
namespace AsyncBody

/-- The forms through which a `var` declaration hoists: statements that hold statements. -/
def Form.nestsStatements : Form → Bool
  | .block .. | .labeled | .ifStatement | .switchStatement | .switchCase | .tryStatement
  | .catchClause | .whileStatement | .doWhileStatement | .forStatement | .forInStatement
  | .forOfStatement .. | .withStatement | .exportDeclaration => true
  | _ => false

namespace Node

open Hook

mutual

/-- Names of the `var` declarations that hoist to the scope around a node. Functions, classes,
namespaces and expressions are not entered. -/
def hoistedVars : Node → List String
  | .absent => []
  | .many items => hoistedVarsAll items
  | .node _ (.variableDeclaration _ kind declare) parts =>
    if kind = .var ∧ ! declare then
      parts.flatMap fun part => part.declaratorIdents.map (·.name)
    else []
  | .node _ form parts => if form.nestsStatements then hoistedVarsAll parts else []

def hoistedVarsAll : List Node → List String
  | [] => []
  | item :: rest => hoistedVars item ++ hoistedVarsAll rest

end

theorem boundIdentsAll_eq (items : List Node) :
    boundIdentsAll items = items.flatMap boundIdents := by
  induction items with
  | nil => rfl
  | cons item rest ih => rw [boundIdentsAll,ih,List.flatMap_cons]

theorem leavesValueAny_eq (items : List Node) : leavesValueAny items = items.any leavesValue := by
  induction items with
  | nil => rfl
  | cons item rest ih => rw [leavesValueAny,ih,List.any_cons]

theorem hoistedVarsAll_eq (items : List Node) :
    hoistedVarsAll items = items.flatMap hoistedVars := by
  induction items with
  | nil => rfl
  | cons item rest ih => rw [hoistedVarsAll,ih,List.flatMap_cons]

theorem spelledAll_eq (items : List Node) : spelledAll items = items.flatMap spelled := by
  induction items with
  | nil => rfl
  | cons item rest ih => rw [spelledAll,ih,List.flatMap_cons]

theorem hoistedVars_node {span : Span} {form : Form} {parts : List Node}
    (h : ∀ ctxt kind declare, form ≠ .variableDeclaration ctxt kind declare) :
    (node span form parts).hoistedVars =
      if form.nestsStatements then hoistedVarsAll parts else [] := by
  rw [hoistedVars]
  exact h

section Routing

variable (hook : String)

theorem route_call_shape (span : Span) (ctxt : Nat) (parts : List Node) :
    ∃ parts', (route hook (.node span (.call ctxt) parts)).result =
      .node span (.call ctxt) parts' := by
  obtain ⟨hr,-⟩ | ⟨_,_,_,_,hf,-,hr⟩ | ⟨hf,-⟩ := route_node_cases hook span (.call ctxt) parts
  · exact ⟨_,hr⟩
  · obtain rfl := Form.call.inj hf
    exact ⟨_,hr⟩
  · cases hf

/-- What says the same of calls with other parts, and of a member and `import.meta`, says of a
routed form what it says of the form around its routed parts. -/
theorem apply_route {α : Type} (f : Node → α)
    (hcall : ∀ span ctxt parts others,
      f (.node span (.call ctxt) parts) = f (.node span (.call ctxt) others))
    (hmeta : ∀ span parts,
      f (metaRead hook span) = f (.node span (.metaProperty .importMeta) parts))
    (span : Span) (form : Form) (parts : List Node) :
    f (route hook (.node span form parts)).result =
      f (.node span form (routeAll hook parts).result) := by
  obtain ⟨hr,-⟩ | ⟨_,_,_,_,rfl,-,hr⟩ | ⟨rfl,hr⟩ := route_node_cases hook span form parts
  · rw [hr]
  · rw [hr]
    exact hcall ..
  · rw [hr]
    exact hmeta ..

/-- Such a thing is kept by routing if it does not depend on whether the parts are routed. -/
theorem apply_route_eq {α : Type} (f : Node → α)
    (hcall : ∀ span ctxt parts others,
      f (.node span (.call ctxt) parts) = f (.node span (.call ctxt) others))
    (hmeta : ∀ span parts,
      f (metaRead hook span) = f (.node span (.metaProperty .importMeta) parts))
    (hmany : ∀ items, f (.many (routeAll hook items).result) = f (.many items))
    (hform : ∀ span form parts,
      f (.node span form (routeAll hook parts).result) = f (.node span form parts)) (n : Node) :
    f (route hook n).result = f n := by
  cases n with
  | absent => rfl
  | many items => exact hmany items
  | node span form parts => exact (apply_route hook f hcall hmeta span form parts).trans (hform ..)

theorem items_route (n : Node) :
    (route hook n).result.items = n.items.map fun item => (route hook item).result := by
  cases n with
  | absent => rfl
  | many items => exact routeAll_result hook items
  | node span form parts =>
    exact apply_route hook items (fun _ _ _ _ => rfl) (fun _ _ => rfl) span form parts

theorem any_items_route {f : Node → Bool} (hf : ∀ n, f (route hook n).result = f n) (n : Node) :
    (route hook n).result.items.any f = n.items.any f := by
  rw [items_route,List.any_map]
  exact congrArg (n.items.any ·) (funext hf)

theorem isPresent_route (n : Node) : (route hook n).result.isPresent = n.isPresent :=
  apply_route_eq hook isPresent (fun _ _ _ _ => rfl) (fun _ _ => rfl) (fun _ => rfl)
    (fun _ _ _ => rfl) n

@[simp] theorem boundIdents_route (n : Node) :
    (route hook n).result.boundIdents = n.boundIdents := by
  induction n using Node.induction with
  | absent => rfl
  | many items ih =>
    rw [route,boundIdents,boundIdents,boundIdentsAll_eq,boundIdentsAll_eq,routeAll_result,
      List.flatMap_map,List.flatMap_def,List.map_congr_left ih,← List.flatMap_def]
  | node span form parts ih =>
    rw [apply_route hook boundIdents (fun _ _ _ _ => rfl) fun _ _ => rfl]
    cases form with
    | arrayPattern | objectPattern | restElement | assignmentPattern | shorthandPattern =>
      cases parts with
      | nil => rfl
      | cons part rest => exact ih part List.mem_cons_self
    | keyValuePattern =>
      rcases parts with _ | ⟨_,_ | ⟨value,_ | _⟩⟩
      · rfl
      · rfl
      · exact ih value (by simp)
      · rfl
    | _ => rfl

@[simp] theorem leavesValue_route (n : Node) :
    (route hook n).result.leavesValue = n.leavesValue := by
  induction n using Node.induction with
  | absent => rfl
  | many items ih =>
    rw [route,leavesValue,leavesValue,leavesValueAny_eq,leavesValueAny_eq,routeAll_result,
      List.any_map,Bool.eq_iff_iff,List.any_eq_true,List.any_eq_true]
    apply exists_congr
    intro item
    apply and_congr_right
    intro hitem
    rw [Function.comp,ih item hitem]
  | node span form parts ih =>
    rw [apply_route hook leavesValue (fun _ _ _ _ => rfl) fun _ _ => rfl]
    cases form with
    | moduleDeclaration declare _ _ name =>
      cases name with
      | ident =>
        rcases parts with _ | ⟨body,_ | _⟩
        · rfl
        · exact congrArg (! declare && ·) (ih body (by simp))
        · rfl
      | string => rfl
    | namespaceDeclaration declare =>
      rcases parts with _ | ⟨body,_ | _⟩
      · rfl
      · exact congrArg (! declare && ·) (ih body (by simp))
      · rfl
    | moduleBlock | exportDeclaration =>
      rcases parts with _ | ⟨body,_ | _⟩
      · rfl
      · exact ih body (by simp)
      · rfl
    | _ => rfl

def declaratorIdent : Node → List Ident
  | .node _ (.declarator _) (pattern :: _) => pattern.boundIdents
  | _ => []

theorem declaratorIdents_many (items : List Node) :
    (many items).declaratorIdents = items.flatMap declaratorIdent := rfl

theorem declaratorIdents_node (span : Span) (form : Form) (parts : List Node) :
    (node span form parts).declaratorIdents = declaratorIdent (node span form parts) := by
  cases form with
  | declarator => cases parts <;> rfl
  | _ => rfl

theorem declaratorIdent_route (n : Node) :
    declaratorIdent (route hook n).result = declaratorIdent n := by
  cases n with
  | absent => rfl
  | many items => rfl
  | node span form parts =>
    rw [apply_route hook declaratorIdent (fun _ _ _ _ => rfl) fun _ _ => rfl]
    cases form with
    | declarator =>
      cases parts with
      | nil => rfl
      | cons pattern rest => exact boundIdents_route hook pattern
    | _ => rfl

@[simp] theorem declaratorIdents_route (n : Node) :
    (route hook n).result.declaratorIdents = n.declaratorIdents := by
  cases n with
  | absent => rfl
  | many items =>
    rw [route,declaratorIdents_many,declaratorIdents_many,routeAll_result,List.flatMap_map]
    exact congrArg (List.flatMap · items) (funext (declaratorIdent_route hook))
  | node span form parts =>
    rw [declaratorIdents_node,← declaratorIdent_route hook]
    cases h : (route hook (node span form parts)).result with
    | node => exact declaratorIdents_node ..
    | absent => rfl
    | many items =>
      obtain ⟨hr,-⟩ | ⟨_,_,_,_,-,-,hr⟩ | ⟨-,hr⟩ := route_node_cases hook span form parts <;>
        rw [hr] at h <;> cases h

@[simp] theorem declaredIdents_route (n : Node) :
    (route hook n).result.declaredIdents = n.declaredIdents := by
  cases n with
  | absent => rfl
  | many items => rfl
  | node span form parts =>
    rw [apply_route hook declaredIdents (fun _ _ _ _ => rfl) fun _ _ => rfl]
    cases form with
    | variableDeclaration | usingDeclaration =>
      match parts with
      | [] | _ :: _ :: _ => rfl
      | [declarators] => exact declaratorIdents_route hook declarators
    | moduleDeclaration _ _ _ name => cases name <;> rfl
    | _ => rfl

@[simp] theorem valueNames_route (n : Node) :
    (route hook n).result.valueNames = n.valueNames := by
  simp [valueNames]

@[simp] theorem hoistedVars_route (n : Node) :
    (route hook n).result.hoistedVars = n.hoistedVars := by
  induction n using Node.induction with
  | absent => rfl
  | many items ih =>
    rw [route,hoistedVars,hoistedVars,hoistedVarsAll_eq,hoistedVarsAll_eq,routeAll_result,
      List.flatMap_map,List.flatMap_def,List.map_congr_left ih,← List.flatMap_def]
  | node span form parts ih =>
    have hparts : hoistedVarsAll (routeAll hook parts).result = hoistedVarsAll parts := by
      rw [hoistedVarsAll_eq,hoistedVarsAll_eq,routeAll_result,List.flatMap_map,List.flatMap_def,
        List.map_congr_left ih,← List.flatMap_def]
    rw [apply_route hook hoistedVars (fun _ _ _ _ => rfl) fun _ _ => rfl]
    by_cases hform : ∃ ctxt kind declare, form = .variableDeclaration ctxt kind declare
    · obtain ⟨ctxt,kind,declare,rfl⟩ := hform
      rw [hoistedVars,hoistedVars,routeAll_result,List.flatMap_map]
      simp only [declaratorIdents_route]
    · rw [hoistedVars_node fun c k d h => hform ⟨c,k,d,h⟩,hparts,
        hoistedVars_node fun c k d h => hform ⟨c,k,d,h⟩]

end Routing

theorem itemNames_of_valueNames {n : Node} {name : String} (h : name ∈ n.valueNames) :
    name ∈ n.itemNames := by
  have hids : n.declaredIdents ≠ [] := by
    intro hnil
    simp [valueNames,hnil] at h
  unfold declaredIdents at hids
  split at hids
  all_goals first
    | exact h
    | exact absurd rfl hids

section Mentioned

/-- What a part of a form mentions, the form mentions, unless the part is an identifier: it could be
a label. -/
theorem mem_mentioned_of_part {name : String} {span : Span} {form : Form} {parts : List Node}
    {part : Node} (hpart : part ∈ parts) (h : name ∈ part.mentioned)
    (hident : ∀ place ctxt x optional inner, part ≠ .node place (.ident ctxt x optional) inner) :
    name ∈ (node span form parts).mentioned := by
  by_contra hnone
  rcases not_mem_mentioned_part hnone hpart with hnot | ⟨_,_,_,_,_,rfl⟩
  · exact hnot h
  · exact hident _ _ _ _ _ rfl

theorem mem_mentioned_of_item {name : String} {items : List Node} {item : Node}
    (hitem : item ∈ items) (h : name ∈ item.mentioned) : name ∈ (many items).mentioned := by
  rw [mentioned,mentionedAll_eq]
  exact List.mem_flatMap.mpr ⟨item,hitem,h⟩

theorem boundIdents_mentioned {n : Node} {id : Ident} (h : id ∈ n.boundIdents) :
    id.name ∈ n.mentioned := by
  induction n using Node.induction with
  | absent => cases h
  | many items ih =>
    rw [boundIdents,boundIdentsAll_eq] at h
    obtain ⟨item,hitem,h⟩ := List.mem_flatMap.mp h
    exact mem_mentioned_of_item hitem (ih item hitem h)
  | node span form parts ih =>
    have hpart : ∀ {part}, part ∈ parts → id ∈ part.boundIdents →
        id.name ∈ (node span form parts).mentioned := by
      rintro part hmem hid
      refine mem_mentioned_of_part hmem (ih part hmem hid) ?_
      rintro _ _ _ _ _ rfl
      cases hid
    unfold boundIdents at h
    split at h
    · contradiction
    · contradiction
    all_goals
      rename_i heq
      obtain ⟨rfl,rfl,rfl⟩ := Node.node.inj heq
    · obtain rfl := List.mem_singleton.mp h
      exact List.mem_append_left _ List.mem_cons_self
    iterate 4 exact hpart List.mem_cons_self h
    · exact hpart (by simp) h
    · exact hpart List.mem_cons_self h
    · cases h

theorem declaratorIdents_mentioned {n : Node} {id : Ident} (h : id ∈ n.declaratorIdents) :
    id.name ∈ n.mentioned := by
  have hone : ∀ {declarator : Node}, id ∈ declaratorIdent declarator →
      id.name ∈ declarator.mentioned := by
    intro declarator hid
    unfold declaratorIdent at hid
    split at hid
    · refine mem_mentioned_of_part List.mem_cons_self (boundIdents_mentioned hid) ?_
      rintro _ _ _ _ _ rfl
      cases hid
    · cases hid
  cases n with
  | absent => cases h
  | many items =>
    rw [declaratorIdents_many] at h
    obtain ⟨item,hitem,h⟩ := List.mem_flatMap.mp h
    exact mem_mentioned_of_item hitem (hone h)
  | node span form parts =>
    rw [declaratorIdents_node] at h
    exact hone h

theorem mentioned_of_declarators {id : Ident} {span : Span} {form : Form} {declarators : Node}
    {parts : List Node} (hmem : declarators ∈ parts) (h : id ∈ declarators.declaratorIdents) :
    id.name ∈ (node span form parts).mentioned := by
  refine mem_mentioned_of_part hmem (declaratorIdents_mentioned h) ?_
  rintro _ _ _ _ _ rfl
  cases h

theorem declaredIdents_mentioned {n : Node} {id : Ident} (h : id ∈ n.declaredIdents) :
    id.name ∈ n.mentioned := by
  unfold declaredIdents at h
  split at h
  · obtain rfl := List.mem_singleton.mp h
    exact List.mem_append_left _ List.mem_cons_self
  · obtain rfl := List.mem_singleton.mp h
    exact List.mem_append_left _ List.mem_cons_self
  · exact mentioned_of_declarators List.mem_cons_self h
  · exact mentioned_of_declarators List.mem_cons_self h
  · obtain rfl := List.mem_singleton.mp h
    exact List.mem_append_left _ List.mem_cons_self
  · obtain rfl := List.mem_singleton.mp h
    exact List.mem_append_left _ List.mem_cons_self
  · cases h

theorem valueNames_mentioned {n : Node} {name : String} (h : name ∈ n.valueNames) :
    name ∈ n.mentioned := by
  rw [valueNames] at h
  split at h
  · obtain ⟨id,hid,rfl⟩ := List.mem_map.mp h
    exact declaredIdents_mentioned hid
  · cases h

theorem hoistedVars_mentioned {n : Node} {name : String} (h : name ∈ n.hoistedVars) :
    name ∈ n.mentioned := by
  induction n using Node.induction with
  | absent => cases h
  | many items ih =>
    rw [hoistedVars,hoistedVarsAll_eq] at h
    obtain ⟨item,hitem,h⟩ := List.mem_flatMap.mp h
    exact mem_mentioned_of_item hitem (ih item hitem h)
  | node span form parts ih =>
    unfold hoistedVars at h
    split at h
    · contradiction
    · contradiction
    all_goals
      rename_i heq
      obtain ⟨rfl,rfl,rfl⟩ := Node.node.inj heq
      split at h
    · obtain ⟨part,hpart,h⟩ := List.mem_flatMap.mp h
      obtain ⟨id,hid,rfl⟩ := List.mem_map.mp h
      exact mentioned_of_declarators hpart hid
    · cases h
    · rw [hoistedVarsAll_eq] at h
      obtain ⟨part,hpart,h⟩ := List.mem_flatMap.mp h
      refine mem_mentioned_of_part hpart (ih part hpart h) ?_
      rintro _ _ _ _ _ rfl
      cases h
    · cases h

end Mentioned

end Node

theorem ImportSpecifier.bound_mem_idents (s : ImportSpecifier) : s.bound ∈ s.idents := by
  cases s with
  | named => exact List.mem_cons_self
  | default => exact List.mem_cons_self
  | whole => exact List.mem_cons_self

theorem ExportSpecifier.inner_subset (s : ExportSpecifier) : s.inner ⊆ s.idents := by
  cases s with
  | named => exact List.subset_append_left _ _
  | default => exact List.nil_subset _
  | whole => exact List.nil_subset _

theorem Form.mentioned_spelled (form : Form) : form.mentioned ⊆ form.spelled := by
  intro name h
  unfold Form.mentioned at h
  split at h
  · cases h
  · obtain ⟨s,hs,rfl⟩ := List.mem_map.mp h
    exact List.mem_flatMap.mpr ⟨s,hs,List.mem_map_of_mem s.bound_mem_idents⟩
  · obtain ⟨s,hs,h⟩ := List.mem_flatMap.mp h
    exact List.mem_flatMap.mpr ⟨s,hs,List.map_subset _ s.inner_subset h⟩
  · cases h
  · exact h

namespace Node

theorem mentioned_spelled {n : Node} {name : String} (h : name ∈ n.mentioned) :
    name ∈ n.spelled := by
  induction n using Node.induction with
  | absent => exact h
  | many items ih =>
    rw [mentioned,mentionedAll_eq] at h
    rw [spelled,spelledAll_eq]
    obtain ⟨item,hitem,h⟩ := List.mem_flatMap.mp h
    exact List.mem_flatMap.mpr ⟨item,hitem,ih item hitem h⟩
  | node span form parts ih =>
    have hparts : ∀ part ∈ parts, name ∈ part.mentioned → name ∈ spelledAll parts := by
      intro part hpart h
      rw [spelledAll_eq]
      exact List.mem_flatMap.mpr ⟨part,hpart,ih part hpart h⟩
    cases hlabel : form.takesLabel parts with
    | false =>
      rw [mentioned_node hlabel,mentionedAll_eq] at h
      rcases List.mem_append.mp h with h | h
      · exact List.mem_append_left _ (form.mentioned_spelled h)
      · obtain ⟨part,hpart,h⟩ := List.mem_flatMap.mp h
        exact List.mem_append_right _ (hparts part hpart h)
    | true =>
      obtain ⟨place,ctxt,label,optional,inner,rest,rfl,hm⟩ := mentioned_label hlabel
      rw [hm,mentionedAll_eq] at h
      obtain ⟨part,hpart,h⟩ := List.mem_flatMap.mp h
      exact List.mem_append_right _ (hparts part (List.mem_cons_of_mem _ hpart) h)

end Node
end AsyncBody
