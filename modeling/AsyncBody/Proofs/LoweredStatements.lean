import AsyncBody.Proofs.ItemOrder
import AsyncBody.Proofs.Placement
import AsyncBody.Proofs.UnseenScopes

/-!
The statements of a function body: they are well formed, what is in them stands where it may, and
nothing is left in them to lower.
-/
namespace AsyncBody

open Hook Node

/-- A tree fits a place if it is well formed and may stand there, and no use of the hook is in
it. -/
structure Node.Fits (slot : Slot) (n : Node) : Prop where
  shaped : n.shaped = true
  placed : n.wellPlaced slot = true
  useless : ¬ n.HasUse

namespace Node.Fits

variable {slot : Slot} {span : Span} {form : Form}

theorem route (hook : String) {n : Node} (hshape : n.shaped = true)
    (hplaced : n.wellPlaced slot = true) : (Node.route hook n).result.Fits slot := by
  refine ⟨shaped_route hook hshape,wellPlaced_route hook hplaced,?_⟩
  rintro ⟨use,hmem,huse⟩
  rw [← use?_isSome_iff,use?_of_mem_route hook n use hmem] at huse
  cases huse

theorem part {parts : List Node} (h : (Node.node span form parts).Fits slot) (i : Nat) {part : Node}
    (hi : parts[i]? = some part) : part.Fits (form.slot i) := by
  have hmem := List.mem_of_getElem? hi
  exact ⟨(shaped_node_iff.mp h.shaped).2 part hmem,(wellPlaced_node_iff.mp h.placed).2 i part hi,
    fun huse => h.useless (hasUse_node.mpr (.inr ⟨part,hmem,huse⟩))⟩

theorem node {parts : List Node} (hlength : parts.length = form.layout.parts.length)
    (hadmits : slot.admits form parts = true) (hself : use? (.node span form parts) = none)
    (hparts : ∀ (i : Nat) (part : Node), parts[i]? = some part → part.Fits (form.slot i)) :
    (Node.node span form parts).Fits slot := by
  have hfits : ∀ part ∈ parts, ∃ i, part.Fits (form.slot i) := by
    intro part hpart
    obtain ⟨i,hi⟩ := List.mem_iff_getElem?.mp hpart
    exact ⟨i,hparts i part hi⟩
  refine ⟨shaped_node_iff.mpr ⟨hlength,?_⟩,wellPlaced_node_iff.mpr ⟨hadmits,?_⟩,?_⟩
  · exact fun part hpart => (hfits part hpart).elim fun _ h => h.shaped
  · exact fun i part hi => (hparts i part hi).placed
  · rw [hasUse_node,← use?_isSome_iff,hself]
    rintro (huse | ⟨part,hpart,huse⟩)
    · cases huse
    · exact (hfits part hpart).elim fun _ h => h.useless huse

theorem many {inner : Slot} {items : List Node} (hinner : slot.ofItems? = some inner)
    (h : ∀ item ∈ items, item.Fits inner) : (Node.many items).Fits slot := by
  refine ⟨(shapedAll_iff items).mpr fun item hitem => (h item hitem).shaped,
    wellPlaced_many_iff.mpr ⟨inner,hinner,fun item hitem => (h item hitem).placed⟩,?_⟩
  rw [hasUse_many]
  rintro ⟨item,hitem,huse⟩
  exact (h item hitem).useless huse

theorem absent (hslot : slot.isOptional = true) : Node.absent.Fits slot := by
  refine ⟨rfl,hslot,?_⟩
  rintro ⟨use,hmem,huse⟩
  obtain rfl := List.mem_singleton.mp hmem
  cases huse

section Parts

variable {a b c : Node}

theorem leaf (hlength : form.layout.parts.length = 0) (hadmits : slot.admits form [] = true)
    (hself : use? (.leaf span form) = none) : (Node.leaf span form).Fits slot :=
  node hlength.symm hadmits hself fun _ _ hi => nomatch hi

theorem unary (hlength : form.layout.parts.length = 1) (hadmits : slot.admits form [a] = true)
    (hself : use? (.node span form [a]) = none) (ha : a.Fits (form.slot 0)) :
    (Node.node span form [a]).Fits slot := by
  refine node hlength.symm hadmits hself fun i part hi => ?_
  match i, hi with
  | 0, hi =>
    obtain rfl := Option.some.inj hi
    exact ha

theorem binary (hlength : form.layout.parts.length = 2) (hadmits : slot.admits form [a,b] = true)
    (hself : use? (.node span form [a,b]) = none) (ha : a.Fits (form.slot 0))
    (hb : b.Fits (form.slot 1)) : (Node.node span form [a,b]).Fits slot := by
  refine node hlength.symm hadmits hself fun i part hi => ?_
  match i, hi with
  | 0, hi =>
    obtain rfl := Option.some.inj hi
    exact ha
  | 1, hi =>
    obtain rfl := Option.some.inj hi
    exact hb

theorem ternary (hlength : form.layout.parts.length = 3) (hadmits : slot.admits form [a,b,c] = true)
    (hself : use? (.node span form [a,b,c]) = none) (ha : a.Fits (form.slot 0))
    (hb : b.Fits (form.slot 1)) (hc : c.Fits (form.slot 2)) :
    (Node.node span form [a,b,c]).Fits slot := by
  refine node hlength.symm hadmits hself fun i part hi => ?_
  match i, hi with
  | 0, hi =>
    obtain rfl := Option.some.inj hi
    exact ha
  | 1, hi =>
    obtain rfl := Option.some.inj hi
    exact hb
  | 2, hi =>
    obtain rfl := Option.some.inj hi
    exact hc

end Parts

/-- Under another form whose parts stand at the same places, the parts still fit. -/
theorem reform {slot' : Slot} {form' : Form} {parts : List Node}
    (h : (Node.node span form parts).Fits slot)
    (hlength : form'.layout.parts.length = form.layout.parts.length)
    (hslots : form'.slots = form.slots) (hadmits : slot'.admits form' parts = true)
    (hself : use? (.node span form' parts) = none) : (Node.node span form' parts).Fits slot' := by
  refine node ((shaped_node_iff.mp h.shaped).1.trans hlength.symm) hadmits hself fun i part hi => ?_
  rw [Form.slot,hslots]
  exact h.part i hi

theorem statement {parts : List Node} (h : (Node.node span form parts).Fits slot) :
    (Node.node span form parts).Fits .statement :=
  ⟨h.shaped,wellPlaced_node_iff.mpr ⟨rfl,(wellPlaced_node_iff.mp h.placed).2⟩,h.useless⟩

/-- Import attributes may stand wherever an expression may. -/
theorem inert {n : Node} (h : n.Fits .attributes) : n.Fits .inert := by
  cases n with
  | absent => exact .absent rfl
  | many => cases h.placed
  | node span form parts =>
    obtain ⟨hadmits,hparts⟩ := wellPlaced_node_iff.mp h.placed
    refine ⟨h.shaped,wellPlaced_node_iff.mpr ⟨?_,hparts⟩,h.useless⟩
    cases form with
    | object => rfl
    | _ => cases hadmits

theorem reference (id : Ident) : id.reference.Fits .inert := .leaf rfl rfl rfl

theorem pattern (id : Ident) : id.pattern.Fits .one := .unary rfl rfl rfl (.absent rfl)

theorem string (literal : StringLiteral) : literal.toNode.Fits .inert := .leaf rfl rfl rfl

end Node.Fits

namespace Loaded

theorem key_fits (name : ExportName) : (key name).Fits .inert := by
  cases name with
  | ident => exact .leaf rfl rfl rfl
  | string literal => exact .string literal

theorem Plain.fits {l : Loaded} (h : l.Plain) {pattern : Node} (hpattern : l.property? = some pattern) :
    pattern.Fits .one := by
  cases h with
  | whole => cases hpattern
  | keyed name bound =>
    obtain rfl := Option.some.inj hpattern
    exact .binary rfl rfl rfl (key_fits name) (.pattern bound)
  | shorthand bound =>
    obtain rfl := Option.some.inj hpattern
    exact .binary rfl rfl rfl (.pattern bound) (.absent rfl)
  | rest bound =>
    obtain rfl := Option.some.inj hpattern
    exact .binary rfl rfl rfl (.pattern bound) (.absent rfl)

end Loaded

namespace Lowering

/-- A statement fits a body, and it is no item that is lowered in a way of its own. -/
structure Settled (statement : Node) : Prop where
  fits : statement.Fits .statement
  kept : isLowered statement = false

section Loads

variable {hook : String} {span : Span}

theorem argument_fits {value : Node} (h : value.Fits .inert) :
    (Node.node .nowhere (.argument none) [value]).Fits .inert := .unary rfl rfl rfl h

theorem options_fits {attributes : Node} (h : attributes.Fits .inert) :
    (Request.options attributes).Fits .inert := by
  refine .unary rfl rfl rfl (.many rfl ?_)
  rintro property hproperty
  obtain rfl := List.mem_singleton.mp hproperty
  exact .binary rfl rfl rfl (.leaf rfl rfl rfl) h

theorem load_fits {request : Request} (h : request.attributes.Fits .inert) :
    (request.load hook span).Fits .inert := by
  have harguments : ∀ argument ∈ request.arguments, argument.Fits .inert := by
    intro argument hargument
    rcases List.mem_cons.mp hargument with rfl | hargument
    · exact argument_fits (.string request.source)
    · split at hargument
      · obtain rfl := List.mem_singleton.mp hargument
        exact argument_fits (options_fits h)
      · cases hargument
  exact .unary rfl rfl rfl
    (.ternary rfl rfl rfl (.reference _) (.many rfl harguments) (.absent rfl))

theorem declarator_fits {pattern value : Node} (hpattern : pattern.Fits .one)
    (hvalue : value.Fits .inert) : (declarator pattern value).Fits .one :=
  .binary rfl rfl rfl hpattern hvalue

theorem constDeclaration_settled {declarators : List Node}
    (h : ∀ declarator ∈ declarators, declarator.Fits .one) :
    Settled (constDeclaration span declarators) :=
  ⟨.unary rfl rfl rfl (.many rfl h),rfl⟩

theorem constant_settled {id : Ident} {value : Node} (h : value.Fits .inert) :
    Settled (constDeclaration span [declarator id.pattern value]) :=
  constDeclaration_settled (List.forall_mem_singleton.mpr (declarator_fits (.pattern id) h))

theorem loadStatement_settled {request : Request} {names : List Loaded}
    (hattributes : request.attributes.Fits .inert) (hnames : ∀ l ∈ names, l.Plain) :
    Settled (loadStatement hook span request names) := by
  have hload : (request.load hook span).Fits .inert := load_fits hattributes
  have hproperties : (objectPattern span (names.filterMap Loaded.property?)).Fits .one := by
    refine .binary rfl rfl rfl (.many rfl fun pattern hpattern => ?_) (.absent rfl)
    obtain ⟨l,hl,hproperty⟩ := List.mem_filterMap.mp hpattern
    exact (hnames l hl).fits hproperty
  dsimp only [loadStatement]
  split
  · exact ⟨.unary rfl rfl rfl hload,rfl⟩
  · exact constDeclaration_settled (List.forall_mem_singleton.mpr (declarator_fits hproperties hload))
  · exact constant_settled hload
  · refine constDeclaration_settled (List.forall_mem_cons.mpr ⟨declarator_fits (.pattern _) hload,?_⟩)
    exact List.forall_mem_singleton.mpr (declarator_fits hproperties (.reference _))

end Loads

theorem entityExpression_fits {n : Node} (h : n.Fits .inert) : (entityExpression n).Fits .inert := by
  induction n using entityExpression.induct with
  | case1 span left right ih =>
    rw [entityExpression]
    exact .binary rfl rfl rfl (ih (h.part 0 rfl)) (h.part 1 rfl)
  | case2 n hother =>
    rw [entityExpression]
    · exact h
    · exact hother

theorem referenceValue_fits {hook : String} {span : Span} {reference : Node}
    (h : reference.Fits .inert) : (referenceValue hook span reference).1.Fits .inert := by
  unfold referenceValue
  split
  · exact load_fits (.absent rfl)
  · exact entityExpression_fits h

theorem namedAs_settled {id : Ident} {declaration : Node} (h : declaration.Fits .default)
    (hnameable : declaration.isNameable = true) : Settled (namedAs id declaration) := by
  unfold isNameable at hnameable
  split at hnameable
  · exact ⟨h.reform rfl rfl rfl rfl,rfl⟩
  · exact ⟨h.reform rfl rfl rfl rfl,rfl⟩
  · cases hnameable

/-- A default export that is no function or class is an interface. -/
theorem interface_settled {declaration : Node} (h : declaration.Fits .default)
    (hother : declaration.isNameable = false) : Settled declaration := by
  cases declaration with
  | absent => cases h.placed
  | many => cases h.placed
  | node span form parts =>
    cases form with
    | functionExpression | classExpression => cases hother
    | interfaceDeclaration => exact ⟨h.statement,rfl⟩
    | _ => cases (wellPlaced_node_iff.mp h.placed).1

theorem declaration_settled {declaration : Node} (h : declaration.Fits .declaration) :
    Settled declaration := by
  cases declaration with
  | absent => cases h.placed
  | many => cases h.placed
  | node span form parts =>
    refine ⟨h.statement,?_⟩
    have hdeclares := (wellPlaced_node_iff.mp h.placed).1
    cases form with
    | importDeclaration | exportDeclaration | exportNamed | exportAll | exportDefaultDeclaration
    | exportDefaultExpression | exportAssignment | exportAsNamespace | importEquals => cases hdeclares
    | _ => rfl

theorem Lowers.settled {hook : String} {n : Node} {names : List String} {l : Lowered}
    (h : Lowers hook n names l) (hshape : n.shaped = true)
    (hplaced : n.wellPlaced .statement = true) : ∀ statement ∈ l.statement, Settled statement := by
  have hrouted : ∀ {span form part}, n = .node span form [part] →
      (Node.route hook part).result.Fits (form.slot 0) := by
    rintro span form part rfl
    exact .route hook ((shaped_node_iff.mp hshape).2 part List.mem_cons_self)
      ((wellPlaced_node_iff.mp hplaced).2 0 part rfl)
  rintro statement hstatement
  cases h with
  | kept h =>
    obtain rfl := Option.some.inj hstatement
    exact ⟨.route hook hshape hplaced,(isLowered_route hook n).trans h⟩
  | dropped | listed => cases hstatement
  | @loaded _ _ m h =>
    obtain rfl := Option.some.inj hstatement
    have hattributes : (m.request hook).attributes.Fits .inert := by
      cases h <;> exact (hrouted rfl).inert
    exact loadStatement_settled hattributes h.plain
  | exported =>
    obtain rfl := Option.some.inj hstatement
    exact declaration_settled (hrouted rfl)
  | ownDefault h =>
    obtain rfl := Option.some.inj hstatement
    exact namedAs_settled (hrouted rfl) ((isNameable_route hook _).trans (isNameable_of_ownName h))
  | freshDefault h =>
    obtain rfl := Option.some.inj hstatement
    exact namedAs_settled (hrouted rfl) ((isNameable_route hook _).trans h)
  | otherDefault h =>
    obtain rfl := Option.some.inj hstatement
    exact interface_settled (hrouted rfl) ((isNameable_route hook _).trans h)
  | defaultValue | assignedValue =>
    obtain rfl := Option.some.inj hstatement
    exact constant_settled (hrouted rfl)
  | reference =>
    obtain rfl := Option.some.inj hstatement
    exact constant_settled (referenceValue_fits (hrouted rfl))

end Lowering

theorem Export.key_fits (name : ExportName) : (Export.key name).Fits .inert := by
  unfold Export.key
  split
  · split
    · exact .unary rfl rfl rfl (.string _)
    · exact .leaf rfl rfl rfl
  · exact .unary rfl rfl rfl (.string _)

theorem Export.property_fits (e : Export) : e.property.Fits .inert := by
  unfold Export.property
  split
  · exact .unary rfl rfl rfl (.reference _)
  · split
    · exact .reference _
    · exact .binary rfl rfl rfl (Export.key_fits _) (.reference _)

theorem Export.returnStatement_settled (span : Span) (table : List Export) :
    Lowering.Settled (Export.returnStatement span table) := by
  refine ⟨.unary rfl rfl rfl (.unary rfl rfl rfl (.many rfl fun property hproperty => ?_)),rfl⟩
  obtain ⟨e,-,rfl⟩ := List.mem_map.mp hproperty
  exact e.property_fits

end AsyncBody
