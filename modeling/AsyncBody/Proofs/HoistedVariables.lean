import AsyncBody.Proofs.Collision
import Mathlib.Data.List.Forall2

/-!
Which variables are collected from a program, or from the body of a function, an accessor or a
static block: those that `var` declarations declare which are reached through statements alone. What
an expression, such a body or a class holds has no say in it.
-/
namespace AsyncBody

open Scope (VarDeclares Callable callable?)

namespace Node

def replaceAt : Node → List Nat → Node → Node
  | _, [], new => new
  | .absent, _ :: _, _ => .absent
  | .many items, i :: π, new => .many (items.modify i (·.replaceAt π new))
  | .node span form parts, i :: π, new => .node span form (parts.modify i (·.replaceAt π new))

/-- A tree with another expression in the place of one, or another body in that of a function, an
accessor, a static block or a class. -/
inductive Revised (n : Node) : Node → Prop where
  | expression {π : List Nat} {span place : Span} {form other : Form} {parts others : List Node}
      (hat : n.at? π = some (.node span form parts)) (hform : form.isExpression = true)
      (hother : other.isExpression = true) : Revised n (n.replaceAt π (.node place other others))
  | body {π : List Nat} {span : Span} {form : Form} {parts : List Node} {c : Callable}
      (hat : n.at? π = some (.node span form parts)) (hc : callable? form parts = some c)
      (body : Node) : Revised n (n.replaceAt π (.node span form (parts.set c.bodyIndex body)))
  | classBody {π : List Nat} {span : Span} {ctxt : Nat} {isAbstract : Bool} {parts : List Node}
      (hat : n.at? π = some (.node span (.classBody ctxt isAbstract) parts)) (members : Node) :
      Revised n (n.replaceAt π (.node span (.classBody ctxt isAbstract) (parts.set 1 members)))

/-- An accessor among import attributes declares a variable. -/
inductive AccessorDeclares (x : String) : Node → Prop where
  | getter {span : Span} {key type body : Node} (h : VarDeclares x body) :
      AccessorDeclares x (.node span .getter [key,type,body])
  | setter {span : Span} {key this param body : Node} (h : VarDeclares x body) :
      AccessorDeclares x (.node span .setter [key,this,param,body])
  | property {properties : List Node} {property : Node} (hmem : property ∈ properties)
      (h : AccessorDeclares x property) : AccessorDeclares x (.many properties)
  | object {span : Span} {parts : List Node} {part : Node} (hmem : part ∈ parts)
      (h : AccessorDeclares x part) : AccessorDeclares x (.node span .object parts)

/-- Two trees bind and hoist the same, as patterns, declarators and statements. -/
structure BindsSame (n m : Node) : Prop where
  bound : n.boundIdents = m.boundIdents
  declarator : declaratorIdent n = declaratorIdent m
  declarators : n.declaratorIdents = m.declaratorIdents
  hoisted : n.hoistedVars = m.hoistedVars

namespace BindsSame

theorem refl (n : Node) : BindsSame n n := ⟨rfl,rfl,rfl,rfl⟩

theorem flatMap_eq {α : Type} {items others : List Node} {f : Node → List α}
    (h : List.Forall₂ BindsSame items others) (hf : ∀ {n m}, BindsSame n m → f n = f m) :
    items.flatMap f = others.flatMap f := by
  induction h with
  | nil => rfl
  | cons hitem _ ih => rw [List.flatMap_cons,List.flatMap_cons,hf hitem,ih]

theorem many {items others : List Node} (h : List.Forall₂ BindsSame items others) :
    BindsSame (.many items) (.many others) where
  bound := by
    rw [boundIdents,boundIdents,boundIdentsAll_eq,boundIdentsAll_eq]
    exact flatMap_eq h BindsSame.bound
  declarator := rfl
  declarators := flatMap_eq h BindsSame.declarator
  hoisted := by
    rw [hoistedVars,hoistedVars,hoistedVarsAll_eq,hoistedVarsAll_eq]
    exact flatMap_eq h BindsSame.hoisted

theorem node {span : Span} {form : Form} {parts others : List Node}
    (h : List.Forall₂ BindsSame parts others) :
    BindsSame (.node span form parts) (.node span form others) := by
  have hdeclarator : declaratorIdent (.node span form parts) =
      declaratorIdent (.node span form others) := by
    cases form with
    | declarator =>
      cases h with
      | nil => rfl
      | cons hpattern _ => exact hpattern.bound
    | _ => rfl
  refine ⟨?_,hdeclarator,?_,?_⟩
  · cases form with
    | arrayPattern | objectPattern | restElement | assignmentPattern | shorthandPattern =>
      cases h with
      | nil => rfl
      | cons hpart _ => exact hpart.bound
    | keyValuePattern =>
      rcases h with _ | ⟨-,_ | ⟨hvalue,_ | _⟩⟩
      · rfl
      · rfl
      · exact hvalue.bound
      · rfl
    | _ => rfl
  · rw [declaratorIdents_node,declaratorIdents_node,hdeclarator]
  · by_cases hform : ∃ ctxt kind declare, form = .variableDeclaration ctxt kind declare
    · obtain ⟨ctxt,kind,declare,rfl⟩ := hform
      rw [hoistedVars,hoistedVars,flatMap_eq h fun hpart => by rw [hpart.declarators]]
    · rw [hoistedVars_node fun c k d hcase => hform ⟨c,k,d,hcase⟩,
        hoistedVars_node fun c k d hcase => hform ⟨c,k,d,hcase⟩,hoistedVarsAll_eq,hoistedVarsAll_eq,
        flatMap_eq h BindsSame.hoisted]

theorem nothing_of_closed (span : Span) {form : Form} (parts : List Node) (h : form.isClosed = true) :
    (Node.node span form parts).boundIdents = [] ∧ declaratorIdent (.node span form parts) = [] ∧
      (Node.node span form parts).hoistedVars = [] := by
  cases form
  all_goals first
    | exact ⟨rfl,rfl,rfl⟩
    | cases h

/-- What is closed binds and hoists nothing, whatever stands in it. -/
theorem closed {span place : Span} {form other : Form} {parts others : List Node}
    (hform : form.isClosed = true) (hother : other.isClosed = true) :
    BindsSame (.node span form parts) (.node place other others) := by
  obtain ⟨hbound,hdeclarator,hhoisted⟩ := nothing_of_closed span parts hform
  obtain ⟨hbound',hdeclarator',hhoisted'⟩ := nothing_of_closed place others hother
  refine ⟨hbound.trans hbound'.symm,hdeclarator.trans hdeclarator'.symm,?_,
    hhoisted.trans hhoisted'.symm⟩
  rw [declaratorIdents_node,declaratorIdents_node,hdeclarator,hdeclarator']

theorem modify {items : List Node} {i : Nat} {f : Node → Node} {c : Node} (hc : items[i]? = some c)
    (h : BindsSame c (f c)) : List.Forall₂ BindsSame items (items.modify i f) := by
  induction items generalizing i with
  | nil => cases hc
  | cons item rest ih =>
    cases i with
    | zero =>
      obtain rfl := Option.some.inj hc
      exact .cons h (List.forall₂_same.mpr fun n _ => .refl n)
    | succ i => exact .cons (.refl item) (ih hc)

end BindsSame

theorem bindsSame_replaceAt {n old new : Node} {π : List Nat} (hat : n.at? π = some old)
    (h : BindsSame old new) : BindsSame n (n.replaceAt π new) := by
  -- Along the position one part of each form changes, and what it becomes binds the same.
  induction π generalizing n with
  | nil =>
    obtain rfl := Option.some.inj hat
    exact h
  | cons i π ih =>
    obtain ⟨c,hc,hinner⟩ := at?_cons_iff.mp hat
    cases n with
    | absent => cases hc
    | many => exact .many (BindsSame.modify hc (ih hinner))
    | node => exact .node (BindsSame.modify hc (ih hinner))

/-- What stands in a tree is well formed and stands where it may, if the whole tree does. -/
theorem placed_at {n m : Node} {π : List Nat} {slot : Slot} (hshape : n.shaped = true)
    (hplaced : n.wellPlaced slot = true) (hat : n.at? π = some m) :
    m.shaped = true ∧ ∃ slot, m.wellPlaced slot = true := by
  induction π generalizing n slot with
  | nil =>
    obtain rfl := Option.some.inj hat
    exact ⟨hshape,slot,hplaced⟩
  | cons i π ih =>
    obtain ⟨c,hc,hinner⟩ := at?_cons_iff.mp hat
    cases n with
    | absent => cases hc
    | many items =>
      obtain ⟨inner,-,hitems⟩ := wellPlaced_many_iff.mp hplaced
      rw [shaped,shapedAll_iff] at hshape
      have hmem := List.mem_of_getElem? hc
      exact ih (hshape c hmem) (hitems c hmem) hinner
    | node span form parts =>
      exact ih ((shaped_node_iff.mp hshape).2 c (List.mem_of_getElem? hc))
        ((wellPlaced_node_iff.mp hplaced).2 i c hc) hinner

theorem isClosed_of_isExpression {form : Form} (h : form.isExpression = true) :
    form.isClosed = true := by
  unfold Form.isClosed
  split
  all_goals first
    | rfl
    | exact h

theorem isClosed_of_callable {form : Form} {parts : List Node} {c : Callable}
    (hc : callable? form parts = some c) : form.isClosed = true := by
  unfold callable? at hc
  split at hc
  all_goals first
    | rfl
    | cases hc

theorem Revised.bindsSame {n m : Node} (h : n.Revised m) : BindsSame n m := by
  cases h with
  | expression hat hform hother =>
    exact bindsSame_replaceAt hat
      (.closed (isClosed_of_isExpression hform) (isClosed_of_isExpression hother))
  | body hat hc =>
    exact bindsSame_replaceAt hat (.closed (isClosed_of_callable hc) (isClosed_of_callable hc))
  | classBody hat => exact bindsSame_replaceAt hat (.closed rfl rfl)

section Collected

variable {x : String}

theorem mem_collectedVars_listed_iff {n : Node} {slot : Slot} (hshape : n.shaped = true)
    (hplaced : n.wellPlaced slot = true) :
    x ∈ n.collectedVars ↔ ∃ statement ∈ n.listed, VarDeclares x statement := by
  rw [collectedVars_eq_hoistedVars hshape hplaced]
  refine ⟨exists_varDeclares hshape hplaced,?_⟩
  rintro ⟨statement,hmem,h⟩
  cases n with
  | many items =>
    rw [hoistedVars,hoistedVarsAll_eq]
    exact List.mem_flatMap.mpr ⟨statement,hmem,h.mem_hoistedVars⟩
  | absent | node =>
    obtain rfl := List.mem_singleton.mp hmem
    exact h.mem_hoistedVars

theorem mem_collectedVarsAll_last {form : Form} {front : List Node} {body : Node}
    (hshapes : ∀ part ∈ front ++ [body], part.shaped = true)
    (hparts : ∀ (i : Nat) (part : Node), (front ++ [body])[i]? = some part →
      part.wellPlaced (form.slot i) = true)
    (hfront : ∀ i < front.length, (form.slot i).holdsStatements = false)
    (hlast : form.slot front.length = .statement) :
    x ∈ collectedVarsAll (front ++ [body]) ↔ VarDeclares x body := by
  have hnone : front.flatMap collectedVars = [] := by
    refine List.flatMap_eq_nil_iff.mpr fun part hpart => ?_
    obtain ⟨i,hi⟩ := List.mem_iff_getElem?.mp hpart
    have hlt := (List.getElem?_eq_some_iff.mp hi).1
    have hplaced := hparts i part ((List.getElem?_append_left hlt).trans hi)
    rw [collectedVars_eq_hoistedVars (hshapes part (List.mem_append_left _ hpart)) hplaced,
      hoistedVars_of_inert hplaced (hfront i hlt)]
  rw [collectedVarsAll_eq,List.flatMap_append,hnone,List.nil_append,List.flatMap_singleton]
  exact mem_collectedVars_iff (hshapes body (List.mem_append_right _ List.mem_cons_self))
    (hlast ▸ hparts front.length body (by simp))

/-- The variables of an accessor are those of its body. -/
theorem mem_accessorVars_iff {span : Span} {form : Form} {parts : List Node}
    (hform : form = .getter ∨ form = .setter) (hshape : (node span form parts).shaped = true)
    (hplaced : (node span form parts).wellPlaced .inert = true) :
    x ∈ (node span form parts).attributeVars ↔ AccessorDeclares x (node span form parts) := by
  obtain ⟨hlength,hshapes⟩ := shaped_node_iff.mp hshape
  have hparts := (wellPlaced_node_iff.mp hplaced).2
  rcases hform with rfl | rfl
  · obtain ⟨key,type,body,rfl⟩ := List.length_eq_three.mp hlength
    have hfront : ∀ i < 2, (Form.getter.slot i).holdsStatements = false := by decide
    have hbody : x ∈ collectedVarsAll ([key,type] ++ [body]) ↔ VarDeclares x body :=
      mem_collectedVarsAll_last hshapes hparts hfront rfl
    refine hbody.trans ⟨.getter,?_⟩
    rintro (h | _)
    exact h
  · obtain ⟨key,rest,rfl⟩ := List.exists_cons_of_length_eq_add_one hlength
    obtain ⟨this,param,body,rfl⟩ := List.length_eq_three.mp (Nat.succ.inj hlength)
    have hfront : ∀ i < 3, (Form.setter.slot i).holdsStatements = false := by decide
    have hbody : x ∈ collectedVarsAll ([key,this,param] ++ [body]) ↔ VarDeclares x body :=
      mem_collectedVarsAll_last hshapes hparts hfront rfl
    refine hbody.trans ⟨.setter,?_⟩
    rintro (_ | h)
    exact h

theorem mem_attributeVars_iff {n : Node} (hshape : n.shaped = true)
    (hplaced : n.wellPlaced .inert = true) : x ∈ n.attributeVars ↔ AccessorDeclares x n := by
  induction n using Node.induction with
  | absent =>
    constructor
    · intro hx
      cases hx
    · intro h
      cases h
  | many items ih =>
    obtain ⟨inner,hinner,hitems⟩ := wellPlaced_many_iff.mp hplaced
    obtain rfl := Option.some.inj hinner
    rw [shaped,shapedAll_iff] at hshape
    rw [attributeVars,attributeVarsAll_eq,List.mem_flatMap]
    constructor
    · rintro ⟨item,hitem,hx⟩
      exact .property hitem ((ih item hitem (hshape item hitem) (hitems item hitem)).mp hx)
    · rintro (_ | _ | ⟨hitem,h⟩)
      exact ⟨_,hitem,(ih _ hitem (hshape _ hitem) (hitems _ hitem)).mpr h⟩
  | node span form parts ih =>
    -- An object is entered for its properties; of them, only accessors have statements to enter.
    cases form with
    | object =>
      have hpart : ∀ part ∈ parts, x ∈ part.attributeVars ↔ AccessorDeclares x part := by
        intro part hmem
        obtain ⟨i,hi⟩ := List.mem_iff_getElem?.mp hmem
        exact ih part hmem ((shaped_node_iff.mp hshape).2 part hmem)
          ((wellPlaced_node_iff.mp hplaced).2 i part hi)
      rw [attributeVars,attributeVarsAll_eq,List.mem_flatMap]
      constructor
      · rintro ⟨part,hmem,hx⟩
        exact .object hmem ((hpart part hmem).mp hx)
      · rintro (_ | _ | _ | ⟨hmem,h⟩)
        exact ⟨_,hmem,(hpart _ hmem).mpr h⟩
    | getter => exact mem_accessorVars_iff (.inl rfl) hshape hplaced
    | setter => exact mem_accessorVars_iff (.inr rfl) hshape hplaced
    | _ =>
      constructor
      · intro hx
        cases hx
      · intro h
        cases h

theorem mem_collectedVars_attributes_iff {span : Span} {form : Form} {attributes : Node}
    (hform : form.holdsAttributes = true) (hshape : attributes.shaped = true)
    (hplaced : attributes.wellPlaced .inert = true) :
    x ∈ (node span form [attributes]).collectedVars ↔ AccessorDeclares x attributes := by
  rw [collectedVars_attributes hform,attributeVarsAll_eq,List.flatMap_singleton]
  exact mem_attributeVars_iff hshape hplaced

end Collected

end Node

namespace Program

/-- What variables are collected from: the program, and the bodies in it of functions, constructors,
accessors and static blocks. -/
inductive VarScope (p : Program) : Node → Prop where
  | program : p.VarScope (.many p.body)
  | body {π : List Nat} {span : Span} {form : Form} {parts : List Node} {c : Callable}
      (hat : (Node.many p.body).at? π = some (.node span form parts))
      (hc : callable? form parts = some c) : p.VarScope c.body

variable {p : Program} {n : Node}

theorem VarScope.placed (h : p.VarScope n) (hshape : p.shaped = true) (hplaced : p.wellPlaced = true) :
    n.shaped = true ∧ ∃ slot, n.wellPlaced slot = true := by
  have hprogramShape : (Node.many p.body).shaped = true := hshape
  have hprogramPlaced : (Node.many p.body).wellPlaced .statements = true := hplaced
  cases h with
  | program => exact ⟨hprogramShape,_,hprogramPlaced⟩
  | @body _ span form parts c hat hc =>
    obtain ⟨hnodeShape,slot,hnodePlaced⟩ := Node.placed_at hprogramShape hprogramPlaced hat
    have hbody : (Node.node span form parts).at? [c.bodyIndex] = some c.body :=
      Node.at?_cons_iff.mpr ⟨c.body,Callable.body_part hc,rfl⟩
    exact Node.placed_at hnodeShape hnodePlaced hbody

/-- In a program whose import attributes hold no accessors, the variables that are collected from
the program or from a body in it are exactly those that `var` declarations declare which are reached
through its statements; and they are the same after another expression, another body or another
class is put in the place of one. -/
theorem collectedVars_declared (hshape : p.shaped = true) (hplaced : p.wellPlaced = true)
    (hscope : p.VarScope n) :
    (∀ x, x ∈ n.collectedVars ↔ ∃ statement ∈ n.listed, VarDeclares x statement) ∧
      ∀ (m : Node) (slot : Slot), n.Revised m → m.shaped = true → m.wellPlaced slot = true →
        m.collectedVars = n.collectedVars := by
  obtain ⟨hscopeShape,_,hscopePlaced⟩ := hscope.placed hshape hplaced
  refine ⟨fun x => Node.mem_collectedVars_listed_iff hscopeShape hscopePlaced,?_⟩
  intro m slot hrevised hmShape hmPlaced
  rw [Node.collectedVars_eq_hoistedVars hmShape hmPlaced,
    Node.collectedVars_eq_hoistedVars hscopeShape hscopePlaced,hrevised.bindsSame.hoisted]

def variableBody (name : String) : Node :=
  .node .nowhere (.block 0) [.many [.node .nowhere (.variableDeclaration 0 .var false)
    [.many [.node .nowhere (.declarator false) [(Ident.named name .nowhere).pattern,.absent]]]]]

/-- `if (c) { l: for (var { a: [x] } of function () { var y; }); }` -/
def nestedScopes : Program :=
  let elements : Node := .node .nowhere (.arrayPattern false)
    [.many [(Ident.named "x" .nowhere).pattern],.absent]
  let property : Node := .node .nowhere .keyValuePattern [.leaf .nowhere (.propertyName "a"),elements]
  let pattern : Node := .node .nowhere (.objectPattern false) [.many [property],.absent]
  let head : Node := .node .nowhere (.variableDeclaration 0 .var false)
    [.many [.node .nowhere (.declarator false) [pattern,.absent]]]
  let function : Node := .node .nowhere (.functionExpression none)
    [.node .nowhere (.function 0 false false)
      [.many [],.many [],variableBody "y",.absent,.absent]]
  let labeled : Node := .node .nowhere .labeled [(Ident.named "l" .nowhere).reference,
    .node .nowhere (.forOfStatement false) [head,function,.leaf .nowhere .empty]]
  ⟨.module,.nowhere,[.node .nowhere .ifStatement [(Ident.named "c" .nowhere).reference,
    .node .nowhere (.block 0) [.many [labeled]],.absent]],none⟩

/-- The outer variable is the program's, the inner one is that of the function, and `xs` in the
place of the function changes nothing for the program. -/
theorem nestedScopes_declared :
    nestedScopes.shaped = true ∧ nestedScopes.wellPlaced = true ∧
      nestedScopes.VarScope (.many nestedScopes.body) ∧ nestedScopes.VarScope (variableBody "y") ∧
      (Node.many nestedScopes.body).collectedVars = ["x"] ∧
      "x" ∈ (Node.many nestedScopes.body).collectedVars ∧ "y" ∈ (variableBody "y").collectedVars ∧
      ∃ m, (Node.many nestedScopes.body).Revised m ∧ m.shaped = true ∧
        m.wellPlaced .statements = true ∧
        m.collectedVars = (Node.many nestedScopes.body).collectedVars := by
  have hshape : nestedScopes.shaped = true := by decide
  have hplaced : nestedScopes.wellPlaced = true := by decide
  have hinner : nestedScopes.VarScope (variableBody "y") :=
    .body (show (Node.many nestedScopes.body).at? [0,1,0,0,1,1,0] = some _ from rfl) rfl
  have hprogram := collectedVars_declared hshape hplaced .program
  have hrevised : (Node.many nestedScopes.body).Revised
      ((Node.many nestedScopes.body).replaceAt [0,1,0,0,1,1] (Ident.named "xs" .nowhere).reference) :=
    .expression rfl rfl rfl
  refine ⟨hshape,hplaced,.program,hinner,rfl,?_,?_,_,hrevised,by decide,by decide,?_⟩
  · refine (hprogram.1 "x").mpr ⟨_,List.mem_cons_self,?_⟩
    refine .nested List.mem_cons_self (.nested List.mem_cons_self (.nested List.mem_cons_self ?_))
    refine .nested List.mem_cons_self (.declaration (.intro List.mem_cons_self ?_))
    exact .property List.mem_cons_self (.keyed (.element List.mem_cons_self .name))
  · refine ((collectedVars_declared hshape hplaced hinner).1 "y").mpr ⟨_,List.mem_cons_self,?_⟩
    exact .nested List.mem_cons_self (.declaration (.intro List.mem_cons_self .name))
  · exact hprogram.2 _ .statements hrevised (by decide) (by decide)

/-- `import "m" with { get a() { var $import; } };` -/
def attributeAccessor : Program :=
  let accessor : Node := .node .nowhere .getter
    [.leaf .nowhere (.propertyName "a"),.absent,variableBody "$import"]
  ⟨.module,.nowhere,[.node .nowhere
    (.importDeclaration [] (.plain "m" .nowhere) false .evaluation)
      [.node .nowhere .object [.many [accessor]]]],none⟩

/-- An accessor among import attributes is entered: its variable is taken for one of the program,
which is refused for it, and is gone with another body of the accessor. -/
theorem attributeAccessor_collides :
    attributeAccessor.shaped = true ∧ attributeAccessor.VarScope (.many attributeAccessor.body) ∧
      "$import" ∈ (Node.many attributeAccessor.body).collectedVars ∧
      (¬ ∃ statement ∈ (Node.many attributeAccessor.body).listed, VarDeclares "$import" statement) ∧
      (attributeAccessor.toFunctionBody {}).result = .error (.importNameCollision "$import") ∧
      ∃ m, (Node.many attributeAccessor.body).Revised m ∧ m.shaped = true ∧ m.collectedVars = [] := by
  have hrevised : (Node.many attributeAccessor.body).Revised _ :=
    .body (show (Node.many attributeAccessor.body).at? [0,0,0,0] = some _ from rfl) rfl
      (.node .nowhere (.block 0) [.many []])
  refine ⟨by decide,.program,?_,?_,rfl,_,hrevised,by decide,rfl⟩
  · refine List.mem_append_left _ ((Node.mem_collectedVars_attributes_iff rfl ?_ ?_).mpr ?_)
    · decide
    · decide
    · refine .object List.mem_cons_self (.property List.mem_cons_self (.getter ?_))
      exact .nested List.mem_cons_self (.declaration (.intro List.mem_cons_self .name))
  · rintro ⟨statement,hmem,h⟩
    obtain rfl := List.mem_singleton.mp hmem
    cases h with
    | nested hmem => cases hmem

end Program
end AsyncBody
