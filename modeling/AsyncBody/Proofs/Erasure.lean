import AsyncBody.Proofs.Bindings
import AsyncBody.Proofs.Tree
import Mathlib.Data.List.Forall2

/-!
What is left of declarations once types are erased: which items are gone, and the names of the
values that the others leave behind, in source order.
-/
namespace AsyncBody

def Form.isPattern : Form → Bool
  | .binding .. | .arrayPattern _ | .objectPattern _ | .restElement _ | .assignmentPattern
  | .keyValuePattern | .shorthandPattern => true
  | _ => false

namespace Node

def listed : Node → List Node
  | .many items => items
  | n => [n]

/-- `Names pattern names`: the names that a pattern binds, in source order. -/
inductive Names : Node → List String → Prop where
  | hole : Names .absent []
  | nil : Names (.many []) []
  | cons {first : Node} {rest : List Node} {names others : List String} (hfirst : Names first names)
      (hrest : Names (.many rest) others) : Names (.many (first::rest)) (names++others)
  | name {span : Span} {ctxt : Nat} {name : String} {optional : Bool} {parts : List Node} :
      Names (.node span (.binding ctxt name optional) parts) [name]
  | array {span : Span} {optional : Bool} {elements type : Node} {names : List String}
      (h : Names elements names) : Names (.node span (.arrayPattern optional) [elements,type]) names
  | object {span : Span} {optional : Bool} {properties type : Node} {names : List String}
      (h : Names properties names) :
      Names (.node span (.objectPattern optional) [properties,type]) names
  | rest {span dots : Span} {argument type : Node} {names : List String} (h : Names argument names) :
      Names (.node span (.restElement dots) [argument,type]) names
  | defaulted {span : Span} {left right : Node} {names : List String} (h : Names left names) :
      Names (.node span .assignmentPattern [left,right]) names
  | keyed {span : Span} {key value : Node} {names : List String} (h : Names value names) :
      Names (.node span .keyValuePattern [key,value]) names
  | shorthand {span : Span} {key value : Node} {names : List String} (h : Names key names) :
      Names (.node span .shorthandPattern [key,value]) names
  | other {span : Span} {form : Form} {parts : List Node} (h : form.isPattern = false) :
      Names (.node span form parts) []

inductive DeclaratorNames : Node → List String → Prop where
  | declarator {span : Span} {definite : Bool} {pattern init : Node} {names : List String}
      (h : Names pattern names) :
      DeclaratorNames (.node span (.declarator definite) [pattern,init]) names
  | other {n : Node} (h : ∀ span definite parts, n ≠ .node span (.declarator definite) parts) :
      DeclaratorNames n []

/-- Nothing is left of an item once types are erased: it is a type, it is ambient, it is a constant
enumeration, whose members are inlined, or it is a namespace of such items. -/
inductive Erased : Node → Prop where
  | absent : Erased .absent
  | many {items : List Node} (h : ∀ item ∈ items, Erased item) : Erased (.many items)
  | interfaceDeclaration {span : Span} {id : Ident} {declare : Bool} {parts : List Node} :
      Erased (.node span (.interfaceDeclaration id declare) parts)
  | typeAlias {span : Span} {declare : Bool} {id : Ident} {parts : List Node} :
      Erased (.node span (.typeAlias declare id) parts)
  | importedType {span : Span} {isExport : Bool} {id : Ident} {parts : List Node} :
      Erased (.node span (.importEquals isExport true id) parts)
  | ambientClass {span : Span} {id : Ident} {parts : List Node} :
      Erased (.node span (.classDeclaration id true) parts)
  | ambientFunction {span : Span} {id : Ident} {parts : List Node} :
      Erased (.node span (.functionDeclaration id true) parts)
  | ambientVariable {span : Span} {ctxt : Nat} {kind : VariableKind} {parts : List Node} :
      Erased (.node span (.variableDeclaration ctxt kind true) parts)
  | ambientEnum {span : Span} {isConst : Bool} {id : Ident} {parts : List Node} :
      Erased (.node span (.enumDeclaration true isConst id) parts)
  | constEnum {span : Span} {declare : Bool} {id : Ident} {parts : List Node} :
      Erased (.node span (.enumDeclaration declare true id) parts)
  | ambientNamespace {span : Span} {global isNamespace : Bool} {name : ModuleName}
      {parts : List Node} : Erased (.node span (.moduleDeclaration true global isNamespace name) parts)
  | foreignModule {span : Span} {declare global isNamespace : Bool} {name : StringLiteral}
      {parts : List Node} :
      Erased (.node span (.moduleDeclaration declare global isNamespace (.string name)) parts)
  | namespaceDeclaration {span : Span} {declare global isNamespace : Bool} {id : Ident} {body : Node}
      (h : Erased body) :
      Erased (.node span (.moduleDeclaration declare global isNamespace (.ident id)) [body])
  | ambientDotted {span : Span} {global : Bool} {id : Ident} {body : Node} :
      Erased (.node span (.namespaceDeclaration true global id) [body])
  | dotted {span : Span} {declare global : Bool} {id : Ident} {body : Node} (h : Erased body) :
      Erased (.node span (.namespaceDeclaration declare global id) [body])
  | moduleBlock {span : Span} {body : Node} (h : Erased body) :
      Erased (.node span .moduleBlock [body])
  | exported {span : Span} {declaration : Node} (h : Erased declaration) :
      Erased (.node span .exportDeclaration [declaration])

/-- `Leaves declaration names`: the names of the values that a declaration leaves behind, in source
order. A function counts by its name, as the overloads of one function do. -/
inductive Leaves : Node → List String → Prop where
  | erased {n : Node} (h : Erased n) : Leaves n []
  | classDeclaration {span : Span} {id : Ident} {parts : List Node} :
      Leaves (.node span (.classDeclaration id false) parts) [id.name]
  | functionDeclaration {span : Span} {id : Ident} {parts : List Node} :
      Leaves (.node span (.functionDeclaration id false) parts) [id.name]
  | variableDeclaration {span : Span} {ctxt : Nat} {kind : VariableKind} {declarators : Node}
      {names : List (List String)} (h : List.Forall₂ DeclaratorNames declarators.listed names) :
      Leaves (.node span (.variableDeclaration ctxt kind false) [declarators]) names.flatten
  | usingDeclaration {span : Span} {isAwait : Bool} {declarators : Node} {names : List (List String)}
      (h : List.Forall₂ DeclaratorNames declarators.listed names) :
      Leaves (.node span (.usingDeclaration isAwait) [declarators]) names.flatten
  | enumDeclaration {span : Span} {id : Ident} {parts : List Node} :
      Leaves (.node span (.enumDeclaration false false id) parts) [id.name]
  | namespaceDeclaration {span : Span} {global isNamespace : Bool} {id : Ident} {body : Node}
      (h : ¬ Erased body) :
      Leaves (.node span (.moduleDeclaration false global isNamespace (.ident id)) [body]) [id.name]
  | statement {n : Node} (h : n.isDeclaration = false) : Leaves n []

theorem names_boundIdents {n : Node} (h : n.shaped = true) :
    Names n (n.boundIdents.map (·.name)) := by
  induction n using Node.induction with
  | absent => exact .hole
  | many items ih =>
    rw [shaped,shapedAll_iff] at h
    rw [boundIdents,boundIdentsAll_eq]
    induction items with
    | nil => exact .nil
    | cons first rest ihrest =>
      rw [List.flatMap_cons,List.map_append]
      refine .cons (ih first List.mem_cons_self (h first List.mem_cons_self)) (ihrest ?_ ?_)
      · exact fun item hitem => ih item (List.mem_cons_of_mem _ hitem)
      · exact fun item hitem => h item (List.mem_cons_of_mem _ hitem)
  | node span form parts ih =>
    obtain ⟨hlength,hparts⟩ := shaped_node_iff.mp h
    have hpart := fun part hpart => ih part hpart (hparts part hpart)
    cases form with
    | binding => exact .name
    | arrayPattern =>
      obtain ⟨elements,type,rfl⟩ := List.length_eq_two.mp hlength
      exact .array (hpart elements List.mem_cons_self)
    | objectPattern =>
      obtain ⟨properties,type,rfl⟩ := List.length_eq_two.mp hlength
      exact .object (hpart properties List.mem_cons_self)
    | restElement =>
      obtain ⟨argument,type,rfl⟩ := List.length_eq_two.mp hlength
      exact .rest (hpart argument List.mem_cons_self)
    | assignmentPattern =>
      obtain ⟨left,right,rfl⟩ := List.length_eq_two.mp hlength
      exact .defaulted (hpart left List.mem_cons_self)
    | keyValuePattern =>
      obtain ⟨key,value,rfl⟩ := List.length_eq_two.mp hlength
      exact .keyed (hpart value (List.mem_cons_of_mem _ List.mem_cons_self))
    | shorthandPattern =>
      obtain ⟨key,value,rfl⟩ := List.length_eq_two.mp hlength
      exact .shorthand (hpart key List.mem_cons_self)
    | _ => exact .other rfl

theorem Names.eq_boundIdents {n : Node} {names : List String} (h : Names n names) :
    names = n.boundIdents.map (·.name) := by
  induction h with
  | hole => rfl
  | nil => rfl
  | cons _ _ hfirst hrest =>
    rw [hfirst,hrest,boundIdents,boundIdents,boundIdentsAll,List.map_append]
  | name => rfl
  | array _ ih | object _ ih | rest _ ih | defaulted _ ih | keyed _ ih | shorthand _ ih => exact ih
  | @other _ form _ h =>
    cases form with
    | binding | arrayPattern | objectPattern | restElement | assignmentPattern | keyValuePattern
    | shorthandPattern => cases h
    | _ => rfl

theorem declaratorNames_declaratorIdent {n : Node} (h : n.shaped = true) :
    DeclaratorNames n ((declaratorIdent n).map (·.name)) := by
  cases n with
  | absent => exact .other fun _ _ _ => Node.noConfusion
  | many items => exact .other fun _ _ _ => Node.noConfusion
  | node span form parts =>
    by_cases hform : ∃ definite, form = .declarator definite
    · obtain ⟨definite,rfl⟩ := hform
      obtain ⟨hlength,hparts⟩ := shaped_node_iff.mp h
      obtain ⟨pattern,init,rfl⟩ := List.length_eq_two.mp hlength
      exact .declarator (names_boundIdents (hparts pattern List.mem_cons_self))
    · have hnone : declaratorIdent (.node span form parts) = [] := by
        unfold declaratorIdent
        split
        · rename_i heq
          obtain ⟨-,rfl,-⟩ := Node.node.inj heq
          exact absurd ⟨_,rfl⟩ hform
        · rfl
      rw [hnone]
      refine .other fun _ definite _ heq => hform ⟨definite,?_⟩
      exact (Node.node.inj heq).2.1

theorem DeclaratorNames.eq_declaratorIdent {n : Node} {names : List String}
    (h : DeclaratorNames n names) : names = (declaratorIdent n).map (·.name) := by
  cases h with
  | declarator h => exact h.eq_boundIdents
  | other h =>
    unfold declaratorIdent
    split
    · exact absurd rfl (h _ _ _)
    · rfl

theorem shaped_of_mem_listed {n item : Node} (h : n.shaped = true) (hmem : item ∈ n.listed) :
    item.shaped = true := by
  cases n with
  | many items =>
    rw [shaped,shapedAll_iff] at h
    exact h item hmem
  | absent | node =>
    obtain rfl := List.mem_singleton.mp hmem
    exact h

theorem declaratorIdents_eq (n : Node) : n.declaratorIdents = n.listed.flatMap declaratorIdent := by
  cases n with
  | absent => rfl
  | many items => rfl
  | node span form parts =>
    rw [declaratorIdents_node]
    exact (List.append_nil _).symm

theorem declaratorNames_listed {n : Node} (h : n.shaped = true) :
    ∃ names, List.Forall₂ DeclaratorNames n.listed names ∧
      n.declaratorIdents.map (·.name) = names.flatten := by
  refine ⟨n.listed.map fun item => (declaratorIdent item).map (·.name),?_,?_⟩
  · rw [List.forall₂_map_right_iff,List.forall₂_same]
    exact fun item hitem => declaratorNames_declaratorIdent (shaped_of_mem_listed h hitem)
  · rw [declaratorIdents_eq,List.map_flatMap]
    rfl

theorem declaratorNames_flatten {n : Node} {names : List (List String)}
    (h : List.Forall₂ DeclaratorNames n.listed names) :
    names.flatten = n.declaratorIdents.map (·.name) := by
  rw [declaratorIdents_eq,List.map_flatMap]
  generalize n.listed = items at h
  induction h with
  | nil => rfl
  | cons hfirst _ ih => rw [List.flatten_cons,List.flatMap_cons,ih,hfirst.eq_declaratorIdent]

theorem Erased.leavesValue {n : Node} (h : Erased n) : n.leavesValue = false := by
  induction h with
  | many _ ih =>
    rw [Node.leavesValue,leavesValueAny_eq,List.any_eq_false]
    exact fun item hitem => by rw [ih item hitem]; exact Bool.false_ne_true
  | namespaceDeclaration _ ih | dotted _ ih => rw [Node.leavesValue,ih,Bool.and_false]
  | moduleBlock _ ih | exported _ ih => rw [Node.leavesValue,ih]
  | constEnum => exact Bool.and_false _
  | @ambientNamespace _ _ _ name parts =>
    cases name with
    | string => rfl
    | ident => rcases parts with _ | ⟨_,_ | _⟩ <;> rfl
  | _ => rfl

theorem erased_node {span : Span} {form : Form} {parts : List Node}
    (hlength : parts.length = form.layout.parts.length)
    (hpart : ∀ part ∈ parts, part.leavesValue = false → Erased part)
    (hvalue : (node span form parts).leavesValue = false) : Erased (.node span form parts) := by
  cases form with
  | interfaceDeclaration => exact .interfaceDeclaration
  | typeAlias => exact .typeAlias
  | importEquals _ typeOnly =>
    obtain rfl : typeOnly = true := by cases typeOnly <;> [cases hvalue; rfl]
    exact .importedType
  | classDeclaration _ declare =>
    obtain rfl : declare = true := by cases declare <;> [cases hvalue; rfl]
    exact .ambientClass
  | functionDeclaration _ declare =>
    obtain rfl : declare = true := by cases declare <;> [cases hvalue; rfl]
    exact .ambientFunction
  | variableDeclaration _ _ declare =>
    obtain rfl : declare = true := by cases declare <;> [cases hvalue; rfl]
    exact .ambientVariable
  | enumDeclaration declare isConst =>
    cases isConst with
    | true => exact .constEnum
    | false =>
      obtain rfl : declare = true := by cases declare <;> [cases hvalue; rfl]
      exact .ambientEnum
  | moduleDeclaration declare _ _ name =>
    cases name with
    | string => exact .foreignModule
    | ident =>
      cases declare with
      | true => exact .ambientNamespace
      | false =>
        obtain ⟨body,rfl⟩ := List.length_eq_one_iff.mp hlength
        exact .namespaceDeclaration (hpart body List.mem_cons_self hvalue)
  | namespaceDeclaration declare =>
    obtain ⟨body,rfl⟩ := List.length_eq_one_iff.mp hlength
    cases declare with
    | true => exact .ambientDotted
    | false => exact .dotted (hpart body List.mem_cons_self hvalue)
  | moduleBlock =>
    obtain ⟨body,rfl⟩ := List.length_eq_one_iff.mp hlength
    exact .moduleBlock (hpart body List.mem_cons_self hvalue)
  | exportDeclaration =>
    obtain ⟨declaration,rfl⟩ := List.length_eq_one_iff.mp hlength
    exact .exported (hpart declaration List.mem_cons_self hvalue)
  | _ => cases hvalue

/-- Exactly what leaves no value is erased. -/
theorem leavesValue_eq_false_iff {n : Node} (h : n.shaped = true) :
    n.leavesValue = false ↔ Erased n := by
  refine ⟨fun hvalue => ?_,Erased.leavesValue⟩
  induction n using Node.induction with
  | absent => exact .absent
  | many items ih =>
    rw [shaped,shapedAll_iff] at h
    rw [leavesValue,leavesValueAny_eq,List.any_eq_false] at hvalue
    exact .many fun item hitem => ih item hitem (h item hitem) (by simpa using hvalue item hitem)
  | node span form parts ih =>
    obtain ⟨hlength,hparts⟩ := shaped_node_iff.mp h
    exact erased_node hlength (fun part hpart => ih part hpart (hparts part hpart)) hvalue

theorem leaves_node {span : Span} {form : Form} {parts : List Node}
    (h : (node span form parts).shaped = true)
    (hvalue : (node span form parts).leavesValue = true) :
    Leaves (.node span form parts) ((node span form parts).declaredIdents.map (·.name)) := by
  obtain ⟨hlength,hparts⟩ := shaped_node_iff.mp h
  cases form with
  | classDeclaration _ declare =>
    obtain rfl : declare = false := by cases declare <;> [rfl; cases hvalue]
    exact .classDeclaration
  | functionDeclaration _ declare =>
    obtain rfl : declare = false := by cases declare <;> [rfl; cases hvalue]
    exact .functionDeclaration
  | variableDeclaration _ _ declare =>
    obtain rfl : declare = false := by cases declare <;> [rfl; cases hvalue]
    obtain ⟨declarators,rfl⟩ := List.length_eq_one_iff.mp hlength
    obtain ⟨names,hnames,heq⟩ := declaratorNames_listed (hparts _ List.mem_cons_self)
    rw [declaredIdents,heq]
    exact .variableDeclaration hnames
  | usingDeclaration =>
    obtain ⟨declarators,rfl⟩ := List.length_eq_one_iff.mp hlength
    obtain ⟨names,hnames,heq⟩ := declaratorNames_listed (hparts _ List.mem_cons_self)
    rw [declaredIdents,heq]
    exact .usingDeclaration hnames
  | enumDeclaration declare isConst =>
    obtain rfl : isConst = false := by cases isConst <;> [rfl; (cases declare <;> cases hvalue)]
    obtain rfl : declare = false := by cases declare <;> [rfl; cases hvalue]
    exact .enumDeclaration
  | moduleDeclaration declare _ _ name =>
    cases name with
    | string => cases hvalue
    | ident =>
      obtain ⟨body,rfl⟩ := List.length_eq_one_iff.mp hlength
      obtain rfl : declare = false := by cases declare <;> [rfl; cases hvalue]
      refine .namespaceDeclaration fun herased => ?_
      have hbody : body.leavesValue = true := hvalue
      rw [herased.leavesValue] at hbody
      cases hbody
  | interfaceDeclaration | typeAlias => cases hvalue
  | _ => exact .statement rfl

theorem leaves_valueNames {n : Node} (h : n.shaped = true) : Leaves n n.valueNames := by
  unfold valueNames
  split
  · rename_i hvalue
    cases n with
    | absent => exact .erased .absent
    | many items => exact .statement rfl
    | node span form parts => exact leaves_node h hvalue
  · rename_i hvalue
    exact .erased ((leavesValue_eq_false_iff h).mp (eq_false_of_ne_true hvalue))

theorem declaredIdents_eq_nil {n : Node} (h : n.isDeclaration = false) : n.declaredIdents = [] := by
  unfold declaredIdents
  split
  all_goals first
    | cases h
    | rfl

/-- The names that a declaration binds at run time are those of the values that it leaves. -/
theorem leaves_iff {n : Node} {names : List String} (h : n.shaped = true) :
    Leaves n names ↔ names = n.valueNames := by
  constructor
  · intro hleaves
    cases hleaves with
    | erased herased => rw [valueNames,herased.leavesValue,if_neg Bool.false_ne_true]
    | classDeclaration => rfl
    | functionDeclaration => rfl
    | variableDeclaration hnames => exact declaratorNames_flatten hnames
    | usingDeclaration hnames => exact declaratorNames_flatten hnames
    | enumDeclaration => rfl
    | @namespaceDeclaration _ _ _ id body herased =>
      have hbody := (shaped_node_iff.mp h).2 body List.mem_cons_self
      rw [← leavesValue_eq_false_iff hbody,Bool.not_eq_false] at herased
      rw [valueNames,Node.leavesValue,herased]
      rfl
    | statement hstatement =>
      rw [valueNames,declaredIdents_eq_nil hstatement]
      exact (ite_self _).symm
  · rintro rfl
    exact leaves_valueNames h

end Node
end AsyncBody
