import AsyncBody.Proofs.Erasure
import AsyncBody.Proofs.Scope

/-!
Where the forms of a tree may stand, as far as bindings care. On trees that keep to this, the
collectors of names see exactly what the patterns and statements of the language bind.
-/
namespace AsyncBody

open Node (child? subtrees)

/-- What may stand in a part of a form. A statement can be anything but a list; what is inert can be
anything, lists too, that holds no statement in a direct way. Import attributes are an object
without accessors. -/
inductive Slot where
  | statement
  | statements
  | one
  | list
  | inert
  | declaration
  | default
  | function
  | attributes
deriving DecidableEq, Repr

/-- The forms out of which a `var` can hoist. -/
def Form.hoists : Form → Bool
  | .variableDeclaration .. => true
  | form => form.nestsStatements

def Node.isPlainProperty : Node → Bool
  | .many _ | .node _ .object _ | .node _ .getter _ | .node _ .setter _ => false
  | _ => true

def Node.arePlainProperties : List Node → Bool
  | [.many properties] => properties.all (·.isPlainProperty)
  | _ => false

namespace Slot

def admits (slot : Slot) (form : Form) (parts : List Node) : Bool :=
  match slot with
  | .statement => true
  | .statements | .list => false
  | .one | .inert => ! form.hoists
  | .declaration => (Node.leaf .nowhere form).isDeclaration
  | .default =>
    match form with
    | .functionExpression _ | .classExpression _ | .interfaceDeclaration .. => true
    | _ => false
  | .function =>
    match form with
    | .function .. => true
    | _ => false
  | .attributes =>
    match form with
    | .object => Node.arePlainProperties parts
    | _ => false

def isOptional : Slot → Bool
  | .declaration | .default | .function => false
  | _ => true

/-- Whether statements stand in a part, out of which a `var` can hoist. -/
def holdsStatements : Slot → Bool
  | .statement | .statements | .declaration => true
  | _ => false

def ofItems? : Slot → Option Slot
  | .statements => some .statement
  | .list => some .one
  | .inert => some .inert
  | _ => none

theorem admits_attributes_iff {form : Form} {parts : List Node} :
    Slot.attributes.admits form parts = true ↔ form = .object ∧
      ∃ properties, parts = [.many properties] ∧ ∀ property ∈ properties, property.isPlainProperty := by
  constructor
  · intro h
    cases form with
    | object =>
      replace h : Node.arePlainProperties parts = true := h
      unfold Node.arePlainProperties at h
      split at h
      · exact ⟨rfl,_,rfl,List.all_eq_true.mp h⟩
      · cases h
    | _ => cases h
  · rintro ⟨rfl,properties,rfl,h⟩
    exact List.all_eq_true.mpr h

end Slot

/-- The slots of the parts of a form; what is not listed is inert. -/
def Form.slots : Form → List Slot
  | .arrayPattern _ | .objectPattern _ | .variableDeclaration .. | .usingDeclaration _ => [.list]
  | .restElement _ | .assignmentPattern | .shorthandPattern | .declarator _ => [.one]
  | .keyValuePattern | .parameter | .parameterProperty .. => [.inert, .one]
  | .function .. => [.list, .list, .statement]
  | .arrow .. => [.list, .statement]
  | .constructor .. => [.inert, .list, .statement]
  | .getter => [.inert, .inert, .statement]
  | .setter => [.inert, .inert, .one, .statement]
  | .staticBlock => [.statement]
  | .block _ | .moduleBlock => [.statements]
  | .switchStatement | .switchCase => [.inert, .statements]
  | .labeled | .whileStatement | .doWhileStatement | .withStatement => [.inert, .statement]
  | .ifStatement => [.inert, .statement, .statement]
  | .tryStatement => [.statement, .statement, .statement]
  | .catchClause => [.one, .statement]
  | .forStatement => [.statement, .inert, .inert, .statement]
  | .forInStatement | .forOfStatement _ => [.statement, .inert, .statement]
  | .exportDeclaration => [.declaration]
  | .exportDefaultDeclaration => [.default]
  | .functionDeclaration .. | .functionExpression _ => [.function]
  | .importDeclaration .. | .exportNamed .. | .exportAll .. | .importOptions => [.attributes]
  | _ => []

def Form.slot (form : Form) (i : Nat) : Slot := form.slots.getD i .inert

namespace Node

open Hook Scope

mutual

/-- Whether each form in a tree stands where it may, given what the tree stands for. -/
def wellPlaced (slot : Slot) : Node → Bool
  | .absent => slot.isOptional
  | .many items =>
    match slot.ofItems? with
    | some inner => wellPlacedAll inner items
    | none => false
  | .node _ form parts => slot.admits form parts && wellPlacedParts form.slots parts

def wellPlacedAll (slot : Slot) : List Node → Bool
  | [] => true
  | item :: rest => wellPlaced slot item && wellPlacedAll slot rest

def wellPlacedParts : List Slot → List Node → Bool
  | _, [] => true
  | [], part :: rest => wellPlaced .inert part && wellPlacedParts [] rest
  | slot :: slots, part :: rest => wellPlaced slot part && wellPlacedParts slots rest

end

theorem wellPlacedAll_iff {slot : Slot} {items : List Node} :
    wellPlacedAll slot items = true ↔ ∀ item ∈ items, item.wellPlaced slot = true := by
  induction items with
  | nil => simp [wellPlacedAll]
  | cons item rest ih => simp [wellPlacedAll,ih]

theorem wellPlacedParts_iff {slots : List Slot} {parts : List Node} :
    wellPlacedParts slots parts = true ↔
      ∀ (i : Nat) (part : Node), parts[i]? = some part →
        part.wellPlaced (slots.getD i .inert) = true := by
  induction parts generalizing slots with
  | nil => simp [wellPlacedParts]
  | cons part rest ih =>
    have hsplit : wellPlacedParts slots (part::rest) =
        (part.wellPlaced (slots.getD 0 .inert) && wellPlacedParts slots.tail rest) := by
      cases slots <;> rfl
    have htail : ∀ i, slots.tail.getD i .inert = slots.getD (i+1) .inert := by
      intro i
      cases slots <;> rfl
    rw [hsplit,Bool.and_eq_true,ih]
    constructor
    · rintro ⟨hpart,hrest⟩ i other hi
      cases i with
      | zero =>
        obtain rfl := Option.some.inj hi
        exact hpart
      | succ i => exact htail i ▸ hrest i other hi
    · intro h
      exact ⟨h 0 part rfl,fun i other hi => (htail i).symm ▸ h (i+1) other hi⟩

theorem wellPlaced_node_iff {slot : Slot} {span : Span} {form : Form} {parts : List Node} :
    (node span form parts).wellPlaced slot = true ↔
      slot.admits form parts = true ∧
        ∀ (i : Nat) (part : Node), parts[i]? = some part →
          part.wellPlaced (form.slot i) = true := by
  rw [wellPlaced,Bool.and_eq_true,wellPlacedParts_iff]
  rfl

theorem wellPlaced_many_iff {slot : Slot} {items : List Node} :
    (many items).wellPlaced slot = true ↔
      ∃ inner, slot.ofItems? = some inner ∧ ∀ item ∈ items, item.wellPlaced inner = true := by
  rw [wellPlaced]
  cases slot.ofItems? with
  | none => simp
  | some inner => simp [wellPlacedAll_iff]

theorem wellPlaced_item {slot inner : Slot} {n item : Node} (h : n.wellPlaced slot = true)
    (hslot : slot.ofItems? = some inner) (hitem : item ∈ n.items) :
    item.wellPlaced inner = true := by
  cases n with
  | absent => cases hitem
  | node => cases hitem
  | many items =>
    obtain ⟨_,hinner,hitems⟩ := wellPlaced_many_iff.mp h
    obtain rfl := Option.some.inj (hslot.symm.trans hinner)
    exact hitems item hitem

section Routing

variable (hook : String)

theorem shaped_route {n : Node} (h : n.shaped = true) : (route hook n).result.shaped = true := by
  induction n using Node.induction with
  | absent => rfl
  | many items ih =>
    rw [shaped,shapedAll_iff] at h
    rw [route,shaped,shapedAll_iff,routeAll_result]
    intro item hitem
    obtain ⟨inner,hinner,rfl⟩ := List.mem_map.mp hitem
    exact ih inner hinner (h inner hinner)
  | node span form parts ih =>
    obtain ⟨hlength,hparts⟩ := shaped_node_iff.mp h
    have hrouted : ∀ part ∈ (routeAll hook parts).result, part.shaped = true := by
      rw [routeAll_result]
      intro part hpart
      obtain ⟨inner,hinner,rfl⟩ := List.mem_map.mp hpart
      exact ih inner hinner (hparts inner hinner)
    have hcount : (routeAll hook parts).result.length = form.layout.parts.length := by
      rw [routeAll_result,List.length_map,hlength]
    obtain ⟨hr,-⟩ | ⟨ctxt,place,inner,rest,rfl,rfl,hr⟩ | ⟨rfl,hr⟩ :=
      route_node_cases hook span form parts
    · rw [hr]
      exact shaped_node_iff.mpr ⟨hcount,hrouted⟩
    · rw [hr]
      refine shaped_node_iff.mpr ⟨hcount,fun part hpart => ?_⟩
      rcases List.mem_cons.mp hpart with rfl | hpart
      · rfl
      · exact hrouted part (List.mem_cons_of_mem _ hpart)
    · rw [hr]
      rfl

theorem isPlainProperty_route (n : Node) :
    (route hook n).result.isPlainProperty = n.isPlainProperty :=
  apply_route_eq hook isPlainProperty (fun _ _ _ _ => rfl) (fun _ _ => rfl) (fun _ => rfl)
    (fun _ form _ => by cases form <;> rfl) n

theorem admits_route {slot : Slot} {form : Form} {parts : List Node}
    (h : slot.admits form parts = true) :
    slot.admits form (routeAll hook parts).result = true := by
  cases slot with
  | attributes =>
    obtain ⟨rfl,properties,rfl,hplain⟩ := Slot.admits_attributes_iff.mp h
    refine Slot.admits_attributes_iff.mpr ⟨rfl,(routeAll hook properties).result,rfl,?_⟩
    rw [routeAll_result,List.forall_mem_map]
    simpa only [isPlainProperty_route] using hplain
  | _ => exact h

theorem wellPlaced_route {n : Node} {slot : Slot} (h : n.wellPlaced slot = true) :
    (route hook n).result.wellPlaced slot = true := by
  induction n using Node.induction generalizing slot with
  | absent => exact h
  | many items ih =>
    obtain ⟨inner,hinner,hitems⟩ := wellPlaced_many_iff.mp h
    rw [route,routeAll_result]
    refine wellPlaced_many_iff.mpr ⟨inner,hinner,fun item hitem => ?_⟩
    obtain ⟨before,hbefore,rfl⟩ := List.mem_map.mp hitem
    exact ih before hbefore (hitems before hbefore)
  | node span form parts ih =>
    obtain ⟨hadmits,hparts⟩ := wellPlaced_node_iff.mp h
    have hrouted : ∀ (i : Nat) (part : Node), (routeAll hook parts).result[i]? = some part →
        part.wellPlaced (form.slot i) = true := by
      intro i part hi
      rw [routeAll_result,List.getElem?_map,Option.map_eq_some_iff] at hi
      obtain ⟨inner,hinner,rfl⟩ := hi
      exact ih inner (List.mem_of_getElem? hinner) (hparts i inner hinner)
    obtain ⟨hr,-⟩ | ⟨ctxt,place,inner,rest,rfl,rfl,hr⟩ | ⟨rfl,hr⟩ :=
      route_node_cases hook span form parts
    · rw [hr]
      exact wellPlaced_node_iff.mpr ⟨admits_route hook hadmits,hrouted⟩
    · rw [hr]
      refine wellPlaced_node_iff.mpr ⟨?_,fun i part hi => ?_⟩
      · cases slot with
        | attributes => cases hadmits
        | _ => exact hadmits
      cases i with
      | zero =>
        obtain rfl := Option.some.inj hi
        rfl
      | succ i => exact hrouted (i+1) part hi
    · rw [hr,metaRead]
      refine wellPlaced_node_iff.mpr ⟨?_,fun i part hi => ?_⟩
      · cases slot with
        | statement | one | inert => rfl
        | _ => cases hadmits
      · obtain _ | _ | i := i
        · obtain rfl := Option.some.inj hi
          rfl
        · obtain rfl := Option.some.inj hi
          rfl
        · cases hi

end Routing

section Collectors

variable {x : String}

theorem hoistedVars_of_inert {n : Node} {slot : Slot} (h : n.wellPlaced slot = true)
    (hslot : slot.holdsStatements = false) : n.hoistedVars = [] := by
  induction n using Node.induction generalizing slot with
  | absent => rfl
  | many items ih =>
    obtain ⟨inner,hinner,hitems⟩ := wellPlaced_many_iff.mp h
    have hitemSlot : inner.holdsStatements = false := by
      cases slot with
      | list | inert =>
        obtain rfl := Option.some.inj hinner
        rfl
      | statements => cases hslot
      | _ => cases hinner
    rw [hoistedVars,hoistedVarsAll_eq]
    exact List.flatMap_eq_nil_iff.mpr fun item hitem => ih item hitem (hitems item hitem) hitemSlot
  | node span form parts =>
    have hadmits := (wellPlaced_node_iff.mp h).1
    have hhoists : form.hoists = false := by
      cases slot with
      | statement | declaration => cases hslot
      | one | inert => simpa [Slot.admits] using hadmits
      | statements | list => cases hadmits
      | default | function =>
        cases form with
        | functionExpression | classExpression | interfaceDeclaration | function => rfl
        | _ => cases hadmits
      | attributes =>
        cases form with
        | object => rfl
        | _ => cases hadmits
    have hplain : ∀ ctxt kind declare, form ≠ .variableDeclaration ctxt kind declare := by
      rintro ctxt kind declare rfl
      cases hhoists
    have hnests : form.nestsStatements = false := by
      cases form with
      | variableDeclaration => rfl
      | _ => exact hhoists
    rw [hoistedVars_node hplain,if_neg (by rw [hnests]; exact Bool.false_ne_true)]

theorem listed_of_single {n : Node} {slot : Slot} (h : n.wellPlaced slot = true)
    (hslot : slot.ofItems? = none) : n.listed = [n] := by
  cases n with
  | many items =>
    obtain ⟨_,hinner,-⟩ := wellPlaced_many_iff.mp h
    cases hslot.symm.trans hinner
  | absent => rfl
  | node => rfl

theorem mem_items_of_listed {n item : Node} {slot : Slot} (h : n.wellPlaced slot = true)
    (hslot : slot = .list ∨ slot = .statements) (hitem : item ∈ n.listed) :
    item ∈ n.items ∨ item = .absent := by
  cases n with
  | many items => exact .inl hitem
  | absent => exact .inr (List.mem_singleton.mp hitem)
  | node =>
    have hadmits := (wellPlaced_node_iff.mp h).1
    rcases hslot with rfl | rfl <;> cases hadmits

theorem not_binds_absent : ¬ Binds x .absent := by
  intro h
  cases h

/-- A name that is found in a pattern is bound by it, if this is so of its parts: of a part that is
one pattern, or of an item of a part that is a list. -/
theorem binds_node {span : Span} {form : Form} {parts : List Node}
    (hlength : parts.length = form.layout.parts.length)
    (hone : ∀ i part, parts[i]? = some part → form.slot i = .one →
      x ∈ part.boundIdents.map (·.name) → Binds x part)
    (hlist : ∀ i part, parts[i]? = some part → form.slot i = .list →
      x ∈ part.boundIdents.map (·.name) → ∃ pattern ∈ part.items, Binds x pattern)
    (hx : x ∈ (node span form parts).boundIdents.map (·.name)) : Binds x (.node span form parts) := by
  cases form with
  | binding ctxt name optional =>
    obtain rfl := List.mem_singleton.mp hx
    exact .name
  | arrayPattern =>
    obtain ⟨elements,type,rfl⟩ := List.length_eq_two.mp hlength
    obtain ⟨pattern,hmem,hbinds⟩ := hlist 0 elements rfl rfl hx
    exact .element hmem hbinds
  | objectPattern =>
    obtain ⟨properties,type,rfl⟩ := List.length_eq_two.mp hlength
    obtain ⟨pattern,hmem,hbinds⟩ := hlist 0 properties rfl rfl hx
    exact .property hmem hbinds
  | restElement =>
    obtain ⟨argument,type,rfl⟩ := List.length_eq_two.mp hlength
    exact .rest (hone 0 argument rfl rfl hx)
  | assignmentPattern =>
    obtain ⟨left,right,rfl⟩ := List.length_eq_two.mp hlength
    exact .defaulted (hone 0 left rfl rfl hx)
  | keyValuePattern =>
    obtain ⟨key,value,rfl⟩ := List.length_eq_two.mp hlength
    exact .keyed (hone 1 value rfl rfl hx)
  | shorthandPattern =>
    obtain ⟨key,value,rfl⟩ := List.length_eq_two.mp hlength
    exact .shorthand (hone 0 key rfl rfl hx)
  | _ => cases hx

/-- What is found in a pattern or in a list of patterns, one of them binds. -/
theorem exists_binds {n : Node} {slot : Slot} (hshape : n.shaped = true)
    (h : n.wellPlaced slot = true) (hslot : slot = .one ∨ slot = .list)
    (hx : x ∈ n.boundIdents.map (·.name)) : ∃ pattern ∈ n.listed, Binds x pattern := by
  induction n using Node.induction generalizing slot with
  | absent => cases hx
  | many items ih =>
    obtain ⟨inner,hinner,hitems⟩ := wellPlaced_many_iff.mp h
    have hone : inner = .one := by
      rcases hslot with rfl | rfl <;> cases hinner
      rfl
    subst hone
    rw [shaped,shapedAll_iff] at hshape
    rw [boundIdents,boundIdentsAll_eq,List.map_flatMap] at hx
    obtain ⟨item,hitem,hx⟩ := List.mem_flatMap.mp hx
    obtain ⟨pattern,hpattern,hbinds⟩ :=
      ih item hitem (hshape item hitem) (hitems item hitem) (.inl rfl) hx
    rw [listed_of_single (hitems item hitem) rfl,List.mem_singleton] at hpattern
    exact ⟨item,hitem,hpattern ▸ hbinds⟩
  | node span form parts ih =>
    obtain ⟨hlength,hshapes⟩ := shaped_node_iff.mp hshape
    have hparts := (wellPlaced_node_iff.mp h).2
    refine ⟨_,List.mem_singleton.mpr rfl,binds_node hlength ?_ ?_ hx⟩
    · intro i part hi hslot hx
      have hplaced := hslot ▸ hparts i part hi
      have hmem := List.mem_of_getElem? hi
      obtain ⟨pattern,hpattern,hbinds⟩ := ih part hmem (hshapes part hmem) hplaced (.inl rfl) hx
      rw [listed_of_single hplaced rfl,List.mem_singleton] at hpattern
      exact hpattern ▸ hbinds
    · intro i part hi hslot hx
      have hplaced := hslot ▸ hparts i part hi
      have hmem := List.mem_of_getElem? hi
      obtain ⟨pattern,hpattern,hbinds⟩ := ih part hmem (hshapes part hmem) hplaced (.inr rfl) hx
      rcases mem_items_of_listed hplaced (.inl rfl) hpattern with hitem | rfl
      · exact ⟨pattern,hitem,hbinds⟩
      · exact absurd hbinds not_binds_absent

theorem mem_boundIdents_iff {n : Node} (hshape : n.shaped = true)
    (h : n.wellPlaced .one = true) : x ∈ n.boundIdents.map (·.name) ↔ Binds x n := by
  refine ⟨fun hx => ?_,Binds.mem_boundIdents⟩
  obtain ⟨pattern,hpattern,hbinds⟩ := exists_binds hshape h (.inl rfl) hx
  rw [listed_of_single h rfl,List.mem_singleton] at hpattern
  exact hpattern ▸ hbinds

theorem mem_boundIdents_list_iff {n : Node} (hshape : n.shaped = true)
    (h : n.wellPlaced .list = true) :
    x ∈ n.boundIdents.map (·.name) ↔ ∃ pattern ∈ n.items, Binds x pattern := by
  constructor
  · intro hx
    obtain ⟨pattern,hpattern,hbinds⟩ := exists_binds hshape h (.inr rfl) hx
    rcases mem_items_of_listed h (.inl rfl) hpattern with hitem | rfl
    · exact ⟨pattern,hitem,hbinds⟩
    · exact absurd hbinds not_binds_absent
  · rintro ⟨pattern,hmem,hbinds⟩
    exact mem_boundIdents_of_item hmem hbinds.mem_boundIdents

theorem mem_declaratorIdents_iff {n : Node} (hshape : n.shaped = true)
    (h : n.wellPlaced .list = true) :
    x ∈ n.declaratorIdents.map (·.name) ↔ BindsDeclarator x n := by
  refine ⟨fun hx => ?_,BindsDeclarator.mem_declaratorIdents⟩
  rw [declaratorIdents_eq,List.map_flatMap] at hx
  obtain ⟨item,hitem,hx⟩ := List.mem_flatMap.mp hx
  have hitemShape := shaped_of_mem_listed hshape hitem
  unfold declaratorIdent at hx
  split at hx
  · rename_i span definite pattern rest
    rcases mem_items_of_listed h (.inl rfl) hitem with hmem | hnone
    · obtain ⟨hlength,hshapes⟩ := shaped_node_iff.mp hitemShape
      have hpattern : pattern.wellPlaced .one = true :=
        (wellPlaced_node_iff.mp (wellPlaced_item h rfl hmem)).2 0 pattern rfl
      obtain ⟨init,rfl⟩ := List.length_eq_one_iff.mp (Nat.succ.inj hlength)
      have hbinds := (mem_boundIdents_iff (hshapes pattern List.mem_cons_self) hpattern).mp hx
      cases n with
      | many items => exact .intro hmem hbinds
      | absent => cases hmem
      | node => cases hmem
    · cases hnone
  · cases hx

theorem not_varDeclares_absent : ¬ VarDeclares x .absent := by
  intro h
  cases h

theorem part_mem_nestedStatements {form : Form} {parts : List Node} {i : Nat} {part : Node}
    (hlength : parts.length = form.layout.parts.length) (hform : form.nestsStatements = true)
    (hi : parts[i]? = some part) (hslot : (form.slot i).holdsStatements = true)
    (hone : (form.slot i).ofItems? = none) : part ∈ nestedStatements form parts := by
  cases form with
  | exportDeclaration =>
    obtain ⟨declaration,rfl⟩ := List.length_eq_one_iff.mp hlength
    exact List.mem_of_getElem? hi
  | tryStatement =>
    obtain ⟨block,handler,finalizer,rfl⟩ := List.length_eq_three.mp hlength
    exact List.mem_of_getElem? hi
  | block =>
    obtain ⟨statements,rfl⟩ := List.length_eq_one_iff.mp hlength
    match i, hi with
    | 0, _ => cases hone
  | switchStatement | switchCase =>
    obtain ⟨head,statements,rfl⟩ := List.length_eq_two.mp hlength
    match i, hi with
    | 0, _ => cases hslot
    | 1, _ => cases hone
  | labeled | whileStatement | doWhileStatement | withStatement | catchClause =>
    obtain ⟨head,body,rfl⟩ := List.length_eq_two.mp hlength
    match i, hi with
    | 0, _ => cases hslot
    | 1, hi => exact List.mem_singleton.mpr (Option.some.inj hi).symm
  | ifStatement =>
    obtain ⟨test,consequent,alternate,rfl⟩ := List.length_eq_three.mp hlength
    match i, hi with
    | 0, _ => cases hslot
    | 1, hi | 2, hi => simp [nestedStatements,← Option.some.inj hi]
  | forInStatement | forOfStatement =>
    obtain ⟨left,right,body,rfl⟩ := List.length_eq_three.mp hlength
    match i, hi with
    | 1, _ => cases hslot
    | 0, hi | 2, hi => simp [nestedStatements,← Option.some.inj hi]
  | forStatement =>
    match parts, hlength, i, hi with
    | [init,test,update,body], _, 1, _ | [init,test,update,body], _, 2, _ => cases hslot
    | [init,test,update,body], _, 0, hi | [init,test,update,body], _, 3, hi =>
      simp [nestedStatements,← Option.some.inj hi]
  | _ => cases hform

theorem items_subset_nestedStatements {form : Form} {parts : List Node} {i : Nat} {part : Node}
    (hlength : parts.length = form.layout.parts.length) (hform : form.nestsStatements = true)
    (hi : parts[i]? = some part) (hslot : form.slot i = .statements) :
    part.items ⊆ nestedStatements form parts := by
  have hslots : Slot.statements ∈ form.slots := by
    rw [← hslot,Form.slot,List.getD_eq_getElem?_getD]
    cases h : form.slots[i]? with
    | none => simp [Form.slot,h] at hslot
    | some slot => exact List.mem_of_getElem? h
  cases form with
  | block =>
    obtain ⟨statements,rfl⟩ := List.length_eq_one_iff.mp hlength
    obtain rfl := List.mem_singleton.mp (List.mem_of_getElem? hi)
    exact List.Subset.refl _
  | switchStatement | switchCase =>
    obtain ⟨head,statements,rfl⟩ := List.length_eq_two.mp hlength
    match i, hi with
    | 0, _ => cases hslot
    | 1, hi =>
      obtain rfl := Option.some.inj hi
      exact List.Subset.refl _
  | labeled | whileStatement | doWhileStatement | withStatement | catchClause | ifStatement
  | tryStatement | forStatement | forInStatement | forOfStatement | exportDeclaration =>
    simp [Form.slots] at hslots
  | _ => cases hform

/-- The statements inside a statement are what is listed where statements stand in it. -/
theorem mem_nestedStatements {form : Form} {parts : List Node} {i : Nat} {part statement : Node}
    (hlength : parts.length = form.layout.parts.length) (hform : form.nestsStatements = true)
    (hi : parts[i]? = some part) (hplaced : part.wellPlaced (form.slot i) = true)
    (hslot : (form.slot i).holdsStatements = true) (hmem : statement ∈ part.listed)
    (hstatement : statement ≠ .absent) : statement ∈ nestedStatements form parts := by
  by_cases hstatements : form.slot i = .statements
  · refine items_subset_nestedStatements hlength hform hi hstatements ?_
    exact (mem_items_of_listed hplaced (.inr hstatements) hmem).resolve_right hstatement
  · have hone : (form.slot i).ofItems? = none := by
      cases h : form.slot i with
      | statements => exact absurd h hstatements
      | list | inert =>
        rw [h] at hslot
        cases hslot
      | _ => rfl
    rw [listed_of_single hplaced hone,List.mem_singleton] at hmem
    exact hmem ▸ part_mem_nestedStatements hlength hform hi hslot hone

theorem varDeclares_declaration {span : Span} {ctxt : Nat} {kind : VariableKind} {declare : Bool}
    {parts : List Node} {slot : Slot}
    (hshape : (node span (.variableDeclaration ctxt kind declare) parts).shaped = true)
    (h : (node span (.variableDeclaration ctxt kind declare) parts).wellPlaced slot = true)
    (hx : x ∈ (node span (.variableDeclaration ctxt kind declare) parts).hoistedVars) :
    VarDeclares x (.node span (.variableDeclaration ctxt kind declare) parts) := by
  obtain ⟨hlength,hshapes⟩ := shaped_node_iff.mp hshape
  obtain ⟨declarators,rfl⟩ := List.length_eq_one_iff.mp hlength
  rw [hoistedVars] at hx
  split at hx
  · rename_i hvar
    obtain ⟨rfl,hdeclare⟩ := hvar
    obtain rfl : declare = false := by simpa using hdeclare
    have hplaced := (wellPlaced_node_iff.mp h).2 0 declarators rfl
    rw [List.flatMap_singleton,
      mem_declaratorIdents_iff (hshapes _ List.mem_cons_self) hplaced] at hx
    exact .declaration hx
  · cases hx

/-- Where a `var` hoists out of a tree, a statement of it holds the declaration. -/
theorem exists_varDeclares {n : Node} {slot : Slot} (hshape : n.shaped = true)
    (h : n.wellPlaced slot = true) (hx : x ∈ n.hoistedVars) :
    ∃ statement ∈ n.listed, VarDeclares x statement := by
  have hholds : ∀ {slot : Slot} {n : Node}, n.wellPlaced slot = true → x ∈ n.hoistedVars →
      slot.holdsStatements = true := by
    intro slot n hplaced hx
    by_contra hinert
    rw [hoistedVars_of_inert hplaced (eq_false_of_ne_true hinert)] at hx
    cases hx
  induction n using Node.induction generalizing slot with
  | absent => cases hx
  | many items ih =>
    obtain ⟨inner,hinner,hitems⟩ := wellPlaced_many_iff.mp h
    rw [shaped,shapedAll_iff] at hshape
    obtain rfl : slot = .statements := by
      have hslot := hholds h hx
      cases slot with
      | statements => rfl
      | list | inert => cases hslot
      | _ => cases hinner
    obtain rfl := Option.some.inj hinner
    rw [hoistedVars,hoistedVarsAll_eq] at hx
    obtain ⟨item,hitem,hx⟩ := List.mem_flatMap.mp hx
    obtain ⟨statement,hmem,hdeclares⟩ := ih item hitem (hshape item hitem) (hitems item hitem) hx
    rw [listed_of_single (hitems item hitem) rfl,List.mem_singleton] at hmem
    exact ⟨item,hitem,hmem ▸ hdeclares⟩
  | node span form parts ih =>
    refine ⟨_,List.mem_singleton.mpr rfl,?_⟩
    by_cases hform : ∃ ctxt kind declare, form = .variableDeclaration ctxt kind declare
    · obtain ⟨ctxt,kind,declare,rfl⟩ := hform
      exact varDeclares_declaration hshape h hx
    · obtain ⟨hlength,hshapes⟩ := shaped_node_iff.mp hshape
      rw [hoistedVars_node fun c k d h => hform ⟨c,k,d,h⟩] at hx
      split at hx
      · rename_i hnests
        rw [hoistedVarsAll_eq] at hx
        obtain ⟨part,hpart,hx⟩ := List.mem_flatMap.mp hx
        obtain ⟨i,hi⟩ := List.mem_iff_getElem?.mp hpart
        have hplaced := (wellPlaced_node_iff.mp h).2 i part hi
        obtain ⟨statement,hmem,hdeclares⟩ := ih part hpart (hshapes part hpart) hplaced hx
        refine .nested ?_ hdeclares
        refine mem_nestedStatements hlength hnests hi hplaced (hholds hplaced hx) hmem ?_
        rintro rfl
        exact not_varDeclares_absent hdeclares
      · cases hx

theorem attributeVars_of_wellPlaced {n : Node} (h : n.wellPlaced .attributes = true) :
    n.attributeVars = [] := by
  cases n with
  | absent => rfl
  | many items =>
    obtain ⟨_,hinner,-⟩ := wellPlaced_many_iff.mp h
    cases hinner
  | node span form parts =>
    obtain ⟨rfl,properties,rfl,hplain⟩ :=
      Slot.admits_attributes_iff.mp (wellPlaced_node_iff.mp h).1
    show attributeVarsAll properties ++ [] = []
    rw [List.append_nil,attributeVarsAll_eq]
    refine List.flatMap_eq_nil_iff.mpr fun property hproperty => ?_
    have hnot := hplain property hproperty
    cases property with
    | absent => rfl
    | many => cases hnot
    | node span form parts =>
      cases form with
      | object | getter | setter => cases hnot
      | _ => rfl

/-- Of the forms that are entered, only those that nest statements have parts for statements. -/
theorem holdsStatements_slot {form : Form} (i : Nat) (hclosed : form.isClosed = false)
    (hnests : form.nestsStatements = false) : (form.slot i).holdsStatements = false := by
  have hslots : ∀ slot ∈ form.slots, slot.holdsStatements = false := by
    unfold Form.slots
    split
    all_goals first
      | cases hclosed
        done
      | cases hnests
        done
      | simp [Slot.holdsStatements]
  rw [Form.slot,List.getD_eq_getElem?_getD]
  cases hslot : form.slots[i]? with
  | none => rfl
  | some slot => exact hslots slot (List.mem_of_getElem? hslot)

/-- In a tree where everything stands in its place, what is collected is what hoists. -/
theorem collectedVars_eq_hoistedVars {n : Node} {slot : Slot} (hshape : n.shaped = true)
    (h : n.wellPlaced slot = true) : n.collectedVars = n.hoistedVars := by
  induction n using Node.induction generalizing slot with
  | absent => rfl
  | many items ih =>
    obtain ⟨inner,-,hitems⟩ := wellPlaced_many_iff.mp h
    rw [shaped,shapedAll_iff] at hshape
    rw [collectedVars,hoistedVars,collectedVarsAll_eq,hoistedVarsAll_eq]
    exact List.flatMap_congr fun item hitem =>
      ih item hitem (hshape item hitem) (hitems item hitem)
  | node span form parts ih =>
    obtain ⟨hlength,hshapes⟩ := shaped_node_iff.mp hshape
    have hparts := (wellPlaced_node_iff.mp h).2
    have hall : collectedVarsAll parts = hoistedVarsAll parts := by
      rw [collectedVarsAll_eq,hoistedVarsAll_eq]
      refine List.flatMap_congr fun part hpart => ?_
      obtain ⟨i,hi⟩ := List.mem_iff_getElem?.mp hpart
      exact ih part hpart (hshapes part hpart) (hparts i part hi)
    by_cases hform : ∃ ctxt kind declare, form = .variableDeclaration ctxt kind declare
    · obtain ⟨ctxt,kind,declare,rfl⟩ := hform
      rfl
    have hplain : ∀ ctxt kind declare, form ≠ .variableDeclaration ctxt kind declare :=
      fun c k d hcase => hform ⟨c,k,d,hcase⟩
    by_cases hnests : form.nestsStatements = true
    · rw [collectedVars_nested hnests,hoistedVars_node hplain,if_pos hnests,hall]
    rw [collectedVars_node hplain,hoistedVars_node hplain,if_neg hnests]
    split
    · rfl
    rename_i hclosed
    split
    · rename_i hattributes
      have hslot : form.slot 0 = .attributes ∧ parts.length = 1 := by
        cases form with
        | importDeclaration | exportNamed | exportAll | importOptions => exact ⟨rfl,hlength⟩
        | _ => cases hattributes
      obtain ⟨attributes,rfl⟩ := List.length_eq_one_iff.mp hslot.2
      rw [attributeVarsAll_eq,List.flatMap_singleton]
      exact attributeVars_of_wellPlaced (hslot.1 ▸ hparts 0 attributes rfl)
    · rw [hall,hoistedVarsAll_eq]
      refine List.flatMap_eq_nil_iff.mpr fun part hpart => ?_
      obtain ⟨i,hi⟩ := List.mem_iff_getElem?.mp hpart
      exact hoistedVars_of_inert (hparts i part hi) (holdsStatements_slot i
        (eq_false_of_ne_true hclosed) (eq_false_of_ne_true hnests))

/-- Out of a statement hoist exactly the names that `var` declarations inside it declare, and they
are collected. -/
theorem mem_collectedVars_iff {n : Node} (hshape : n.shaped = true)
    (h : n.wellPlaced .statement = true) : x ∈ n.collectedVars ↔ VarDeclares x n := by
  rw [collectedVars_eq_hoistedVars hshape h]
  refine ⟨fun hx => ?_,VarDeclares.mem_hoistedVars⟩
  obtain ⟨statement,hmem,hdeclares⟩ := exists_varDeclares hshape h hx
  rw [listed_of_single h rfl,List.mem_singleton] at hmem
  exact hmem ▸ hdeclares

end Collectors

end Node

def Program.wellPlaced (p : Program) : Bool := Node.wellPlacedAll .statement p.body

end AsyncBody
