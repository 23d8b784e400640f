import AsyncBody.Proofs.CollectedVars

/-!
Scopes of programs in strict mode, types erased: what patterns and declarations bind, which scopes a
node opens and where inside the node they hold, and to which of them a name resolves.
-/
namespace AsyncBody

namespace Node

def child? : Node → Nat → Option Node
  | .absent, _ => none
  | .many items, i => items[i]?
  | .node _ _ parts, i => parts[i]?

/-- The node at a position, which lists the indices that lead to it. -/
def at? (n : Node) : List Nat → Option Node
  | [] => some n
  | i :: π =>
    match n.child? i with
    | some c => c.at? π
    | none => none

theorem at?_cons_iff {n m : Node} {i : Nat} {π : List Nat} :
    n.at? (i::π) = some m ↔ ∃ c, n.child? i = some c ∧ c.at? π = some m := by
  rw [at?]
  cases n.child? i <;> simp

end Node

namespace Scope

inductive Binds (x : String) : Node → Prop where
  | name {span : Span} {ctxt : Nat} {optional : Bool} {parts : List Node} :
      Binds x (.node span (.binding ctxt x optional) parts)
  | element {span : Span} {optional : Bool} {elements type pattern : Node}
      (hmem : pattern ∈ elements.items) (h : Binds x pattern) :
      Binds x (.node span (.arrayPattern optional) [elements,type])
  | property {span : Span} {optional : Bool} {properties type pattern : Node}
      (hmem : pattern ∈ properties.items) (h : Binds x pattern) :
      Binds x (.node span (.objectPattern optional) [properties,type])
  | rest {span dots : Span} {argument type : Node} (h : Binds x argument) :
      Binds x (.node span (.restElement dots) [argument,type])
  | defaulted {span : Span} {left right : Node} (h : Binds x left) :
      Binds x (.node span .assignmentPattern [left,right])
  | keyed {span : Span} {key value : Node} (h : Binds x value) :
      Binds x (.node span .keyValuePattern [key,value])
  | shorthand {span : Span} {key value : Node} (h : Binds x key) :
      Binds x (.node span .shorthandPattern [key,value])

inductive BindsDeclarator (x : String) : Node → Prop where
  | intro {span : Span} {definite : Bool} {pattern init : Node} {declarators : List Node}
      (hmem : Node.node span (.declarator definite) [pattern,init] ∈ declarators)
      (h : Binds x pattern) : BindsDeclarator x (.many declarators)

/-- The statements directly inside a statement, those among them that share its `var` names. -/
def nestedStatements : Form → List Node → List Node
  | .block _, [statements] => statements.items
  | .labeled, [_, body] => [body]
  | .ifStatement, [_, consequent, alternate] => [consequent, alternate]
  | .switchStatement, [_, cases] => cases.items
  | .switchCase, [_, consequent] => consequent.items
  | .tryStatement, [block, handler, finalizer] => [block, handler, finalizer]
  | .catchClause, [_, body] => [body]
  | .whileStatement, [_, body] => [body]
  | .doWhileStatement, [_, body] => [body]
  | .forStatement, [init, _, _, body] => [init, body]
  | .forInStatement, [left, _, body] => [left, body]
  | .forOfStatement _, [left, _, body] => [left, body]
  | .withStatement, [_, body] => [body]
  | .exportDeclaration, [declaration] => [declaration]
  | _, _ => []

/-- A statement holds a `var` declaration of a name, at any depth. -/
inductive VarDeclares (x : String) : Node → Prop where
  | declaration {span : Span} {ctxt : Nat} {declarators : Node}
      (h : BindsDeclarator x declarators) :
      VarDeclares x (.node span (.variableDeclaration ctxt .var false) [declarators])
  | nested {span : Span} {form : Form} {parts : List Node} {statement : Node}
      (hmem : statement ∈ nestedStatements form parts) (h : VarDeclares x statement) :
      VarDeclares x (.node span form parts)

inductive DeclaresLexically (x : String) : Node → Prop where
  | letOrConst {span : Span} {ctxt : Nat} {kind : VariableKind} {declarators : Node}
      (hkind : kind ≠ .var) (h : BindsDeclarator x declarators) :
      DeclaresLexically x (.node span (.variableDeclaration ctxt kind false) [declarators])
  | usingDeclaration {span : Span} {isAwait : Bool} {declarators : Node}
      (h : BindsDeclarator x declarators) :
      DeclaresLexically x (.node span (.usingDeclaration isAwait) [declarators])

/-- A statement is a function declaration with a body, labelled or not. A signature binds nothing in
a scope, so unlike in `declared` the body is asked for. -/
inductive DeclaresFunction : String → Node → Prop where
  | function {span place : Span} {id : Ident} {ctxt : Nat} {generator async : Bool}
      {params decorators body : Node} {rest : List Node} (hbody : body.isPresent = true) :
      DeclaresFunction id.name (.node span (.functionDeclaration id false)
        [.node place (.function ctxt generator async) (params :: decorators :: body :: rest)])
  | labeled {x : String} {span : Span} {label body : Node} (h : DeclaresFunction x body) :
      DeclaresFunction x (.node span .labeled [label,body])

/-- A statement of a list declares a name in the scope of the list. -/
inductive Declares : String → Node → Prop where
  | lexical {x : String} {statement : Node} (h : DeclaresLexically x statement) :
      Declares x statement
  | function {x : String} {statement : Node} (h : DeclaresFunction x statement) :
      Declares x statement
  | classDeclaration {span : Span} {id : Ident} {parts : List Node} :
      Declares id.name (.node span (.classDeclaration id false) parts)
  | enumDeclaration {span : Span} {id : Ident} {parts : List Node} :
      Declares id.name (.node span (.enumDeclaration false false id) parts)
  | namespaceDeclaration {span : Span} {global isNamespace : Bool} {id : Ident} {body : Node}
      (hvalue : body.leavesValue = true) :
      Declares id.name (.node span (.moduleDeclaration false global isNamespace (.ident id)) [body])

inductive DeclaresInNamespace : String → Node → Prop where
  | declaration {x : String} {item : Node} (h : Declares x item) : DeclaresInNamespace x item
  | hoisted {x : String} {item : Node} (h : VarDeclares x item) : DeclaresInNamespace x item
  | exported {x : String} {span : Span} {declaration : Node} (h : Declares x declaration) :
      DeclaresInNamespace x (.node span .exportDeclaration [declaration])
  | alias {span : Span} {isExport : Bool} {id : Ident} {parts : List Node} :
      DeclaresInNamespace id.name (.node span (.importEquals isExport false id) parts)

inductive NamesMember (x : String) : Node → Prop where
  | ident {span place : Span} {ctxt : Nat} {optional : Bool} {parts : List Node} {init : Node} :
      NamesMember x (.node span .enumMember [.node place (.ident ctxt x optional) parts,init])
  | string {span place : Span} {raw : Option String} {parts : List Node} {init : Node} :
      NamesMember x (.node span .enumMember [.node place (.string x raw) parts,init])

/-- What can be called, or run like a body: the patterns of its parameters, the positions inside
them, and its body. -/
structure Callable where
  patterns : List Node
  inPatterns : List Nat → Bool
  body : Node
  bodyIndex : Nat

def parameterPattern? : Node → Option Node
  | .node _ .parameter [_, pattern] => some pattern
  | .node _ (.parameterProperty ..) [_, pattern] => some pattern
  | _ => none

/-- Decorators of parameters stand outside. -/
def callable? : Form → List Node → Option Callable
  | .function .., params :: _ :: body :: _ =>
    some ⟨params.items.filterMap parameterPattern?,(· matches 0 :: _ :: 1 :: _),body,2⟩
  | .arrow .., params :: body :: _ => some ⟨params.items,(· matches 0 :: _),body,1⟩
  | .constructor .., _ :: params :: body :: _ =>
    some ⟨params.items.filterMap parameterPattern?,(· matches 1 :: _ :: 1 :: _),body,2⟩
  | .getter, [_, _, body] => some ⟨[],fun _ => false,body,2⟩
  | .setter, [_, _, param, body] => some ⟨[param],(· matches 2 :: _),body,3⟩
  | .staticBlock, [body] => some ⟨[],fun _ => false,body,0⟩
  | _, _ => none

def Callable.covers (c : Callable) (π : List Nat) : Bool :=
  c.inPatterns π || π.head? == some c.bodyIndex

/-- Arrow functions and static blocks have no `arguments` of their own. -/
def hasArguments : Form → Bool
  | .function .. | .constructor .. | .getter | .setter => true
  | _ => false

def head? : Form → List Node → Option Node
  | .forStatement, init :: _ => some init
  | .forInStatement, left :: _ => some left
  | .forOfStatement _, left :: _ => some left
  | _, _ => none

inductive Kind where
  | arguments
  | parameters
  | variables
  | declarations
  | ownName
  | caught
  | head
  | members
  | object
deriving DecidableEq, Repr

/-- Of the scopes that one node opens, a deeper one lies inside the others. -/
def Kind.depth : Kind → Nat
  | .arguments => 0
  | .parameters => 1
  | .variables => 2
  | .declarations => 3
  | .ownName => 4
  | .caught => 5
  | .head => 6
  | .members => 7
  | .object => 8

/-- A node opens a scope that binds a name and that holds at a position inside the node. -/
inductive Opens (x : String) : Node → List Nat → Kind → Prop where
  | arguments {span : Span} {form : Form} {parts : List Node} {c : Callable} {π : List Nat}
      (hc : callable? form parts = some c) (hform : hasArguments form = true)
      (hx : x = "arguments") (hπ : c.covers π = true) : Opens x (.node span form parts) π .arguments
  | parameters {span : Span} {form : Form} {parts : List Node} {c : Callable} {pattern : Node}
      {π : List Nat} (hc : callable? form parts = some c) (hmem : pattern ∈ c.patterns)
      (h : Binds x pattern) (hπ : c.covers π = true) :
      Opens x (.node span form parts) π .parameters
  | bodyVariables {span : Span} {form : Form} {parts : List Node} {c : Callable} {i : Nat}
      {π : List Nat} (hc : callable? form parts = some c) (hi : i = c.bodyIndex)
      (h : VarDeclares x c.body) : Opens x (.node span form parts) (i :: π) .variables
  | block {span : Span} {ctxt : Nat} {statements statement : Node} {π : List Nat}
      (hmem : statement ∈ statements.items) (h : Declares x statement) :
      Opens x (.node span (.block ctxt) [statements]) (0 :: π) .declarations
  | switch {span place : Span} {discriminant cases test consequent statement : Node} {π : List Nat}
      (hcase : .node place .switchCase [test,consequent] ∈ cases.items)
      (hmem : statement ∈ consequent.items) (h : Declares x statement) :
      Opens x (.node span .switchStatement [discriminant,cases]) (1 :: π) .declarations
  | branch {span : Span} {parts : List Node} {branch : Node} {i : Nat} {π : List Nat}
      (hbranch : parts[i]? = some branch) (h : DeclaresFunction x branch) :
      Opens x (.node span .ifStatement parts) (i :: π) .declarations
  | namespaceBody {span : Span} {body item : Node} {π : List Nat} (hmem : item ∈ body.items)
      (h : DeclaresInNamespace x item) :
      Opens x (.node span .moduleBlock [body]) (0 :: π) .declarations
  | functionName {span : Span} {id : Ident} {parts : List Node} {i : Nat} {π : List Nat}
      (hx : id.name = x) :
      Opens x (.node span (.functionExpression (some id)) parts) (i :: π) .ownName
  | className {span : Span} {id : Ident} {parts : List Node} {i : Nat} {π : List Nat}
      (hx : id.name = x) (hi : i ≠ 0) :
      Opens x (.node span (.classExpression (some id)) parts) (0 :: i :: π) .ownName
  | declaredClassName {span : Span} {id : Ident} {parts : List Node} {i : Nat} {π : List Nat}
      (hx : id.name = x) (hi : i ≠ 0) :
      Opens x (.node span (.classDeclaration id false) parts) (0 :: i :: π) .ownName
  | namespaceName {span : Span} {global isNamespace : Bool} {id : Ident} {parts : List Node}
      {π : List Nat} (hx : id.name = x) :
      Opens x (.node span (.moduleDeclaration false global isNamespace (.ident id)) parts)
        (0 :: π) .ownName
  | dottedName {span : Span} {global : Bool} {id : Ident} {parts : List Node} {π : List Nat}
      (hx : id.name = x) :
      Opens x (.node span (.namespaceDeclaration false global id) parts) (0 :: π) .ownName
  | caught {span : Span} {param : Node} {rest : List Node} {i : Nat} {π : List Nat}
      (h : Binds x param) : Opens x (.node span .catchClause (param :: rest)) (i :: π) .caught
  | head {span : Span} {form : Form} {parts : List Node} {head : Node} {i : Nat} {π : List Nat}
      (hhead : head? form parts = some head) (h : DeclaresLexically x head) :
      Opens x (.node span form parts) (i :: π) .head
  | members {span : Span} {id : Ident} {members member : Node} {π : List Nat}
      (hmem : member ∈ members.items) (h : NamesMember x member) :
      Opens x (.node span (.enumDeclaration false false id) [members]) (0 :: π) .members
  | object {span : Span} {parts : List Node} {π : List Nat} :
      Opens x (.node span .withStatement parts) (1 :: π) .object

/-- A node, or one on the way from it to a position inside, opens a scope that binds a name and
holds at the position. -/
inductive BoundWithin (x : String) : Node → List Nat → Prop where
  | here {n : Node} {π : List Nat} {kind : Kind} (h : Opens x n π kind) : BoundWithin x n π
  | inside {n c : Node} {i : Nat} {π : List Nat} (hc : n.child? i = some c)
      (h : BoundWithin x c π) : BoundWithin x n (i :: π)

/-- `Resolves x n π ρ kind`: the name `x` at the position `π` of `n` means what the innermost scope
around it that binds it says, and that is a scope of this kind of the node at `ρ`. -/
inductive Resolves (x : String) : Node → List Nat → List Nat → Kind → Prop where
  | here {n c : Node} {i : Nat} {π : List Nat} {kind : Kind} (h : Opens x n (i :: π) kind)
      (hinner : ∀ inner, Opens x n (i :: π) inner → inner.depth ≤ kind.depth)
      (hc : n.child? i = some c) (hinside : ¬ BoundWithin x c π) : Resolves x n (i :: π) [] kind
  | inside {n c : Node} {i : Nat} {π ρ : List Nat} {kind : Kind} (hc : n.child? i = some c)
      (h : Resolves x c π ρ kind) : Resolves x n (i :: π) (i :: ρ) kind

variable {x : String}

theorem Kind.depth_injective {k l : Kind} (h : k.depth = l.depth) : k = l := by
  cases k <;> cases l <;> first | rfl | cases h

theorem Callable.covers_nil {form : Form} {parts : List Node} {c : Callable}
    (hc : callable? form parts = some c) : c.covers [] = false := by
  unfold callable? at hc
  split at hc <;> cases hc <;> rfl

theorem Callable.body_part {form : Form} {parts : List Node} {c : Callable}
    (hc : callable? form parts = some c) : parts[c.bodyIndex]? = some c.body := by
  unfold callable? at hc
  split at hc <;> cases hc <;> rfl

theorem head?_of_callable {form : Form} {parts : List Node} {c : Callable}
    (hc : callable? form parts = some c) : head? form parts = none := by
  unfold callable? at hc
  split at hc <;> first | rfl | cases hc

/-- What can be called opens nothing around what stands outside of it; inside, it binds its
parameters and, in its body only, the variables of the body. -/
theorem Opens.of_callable {span : Span} {form : Form} {parts : List Node} {c : Callable}
    {π : List Nat} {kind : Kind} (h : Opens x (.node span form parts) π kind)
    (hc : callable? form parts = some c) :
    c.covers π = true ∧ (x = "arguments" ∨ (∃ pattern ∈ c.patterns, Binds x pattern) ∨
      π.head? = some c.bodyIndex ∧ VarDeclares x c.body) := by
  cases h with
  | arguments hc' _ hx hπ =>
    obtain rfl := Option.some.inj (hc.symm.trans hc')
    exact ⟨hπ,.inl hx⟩
  | parameters hc' hmem hbinds hπ =>
    obtain rfl := Option.some.inj (hc.symm.trans hc')
    exact ⟨hπ,.inr (.inl ⟨_,hmem,hbinds⟩)⟩
  | bodyVariables hc' hi hvars =>
    obtain rfl := Option.some.inj (hc.symm.trans hc')
    subst hi
    exact ⟨by simp [Callable.covers],.inr (.inr ⟨rfl,hvars⟩)⟩
  | head hhead =>
    rw [head?_of_callable hc] at hhead
    cases hhead
  | _ => cases hc

theorem not_opens_nil {n : Node} {kind : Kind} : ¬ Opens x n [] kind := by
  intro h
  cases h with
  | arguments hc _ _ hπ =>
    rw [Callable.covers_nil hc] at hπ
    cases hπ
  | parameters hc _ _ hπ =>
    rw [Callable.covers_nil hc] at hπ
    cases hπ

theorem not_boundWithin_nil {n : Node} : ¬ BoundWithin x n [] := by
  rintro ⟨h⟩
  exact not_opens_nil h

theorem boundWithin_cons_iff {n : Node} {i : Nat} {π : List Nat} :
    BoundWithin x n (i :: π) ↔
      (∃ kind, Opens x n (i :: π) kind) ∨ ∃ c, n.child? i = some c ∧ BoundWithin x c π := by
  constructor
  · rintro (⟨h⟩ | ⟨hc,h⟩)
    · exact .inl ⟨_,h⟩
    · exact .inr ⟨_,hc,h⟩
  · rintro (⟨_,h⟩ | ⟨_,hc,h⟩)
    · exact .here h
    · exact .inside hc h

theorem Resolves.boundWithin {n : Node} {π ρ : List Nat} {kind : Kind}
    (h : Resolves x n π ρ kind) : BoundWithin x n π := by
  induction h with
  | here h => exact .here h
  | inside hc _ ih => exact .inside hc ih

/-- A name at a position resolves to one scope only. -/
theorem Resolves.unique {n : Node} {π ρ ρ' : List Nat} {kind kind' : Kind}
    (h : Resolves x n π ρ kind) (h' : Resolves x n π ρ' kind') : ρ = ρ' ∧ kind = kind' := by
  induction h generalizing ρ' with
  | here h hinner hc hinside =>
    cases h' with
    | here h' hinner' =>
      have hdepth := Nat.le_antisymm (hinner' _ h) (hinner _ h')
      exact ⟨rfl,Kind.depth_injective hdepth⟩
    | inside hc' h' =>
      obtain rfl := Option.some.inj (hc.symm.trans hc')
      exact absurd h'.boundWithin hinside
  | inside hc h ih =>
    cases h' with
    | here _ _ hc' hinside =>
      obtain rfl := Option.some.inj (hc.symm.trans hc')
      exact absurd h.boundWithin hinside
    | inside hc' h' =>
      obtain rfl := Option.some.inj (hc.symm.trans hc')
      obtain ⟨rfl,rfl⟩ := ih h'
      exact ⟨rfl,rfl⟩

section Collectors

theorem mem_boundIdents_of_item {n pattern : Node} (hmem : pattern ∈ n.items)
    (h : x ∈ pattern.boundIdents.map (·.name)) : x ∈ n.boundIdents.map (·.name) := by
  cases n with
  | many items =>
    obtain ⟨id,hid,rfl⟩ := List.mem_map.mp h
    refine List.mem_map_of_mem ?_
    rw [Node.boundIdents,Node.boundIdentsAll_eq]
    exact List.mem_flatMap.mpr ⟨pattern,hmem,hid⟩
  | absent => cases hmem
  | node => cases hmem

theorem Binds.mem_boundIdents {n : Node} (h : Binds x n) :
    x ∈ n.boundIdents.map (·.name) := by
  induction h with
  | name => exact List.mem_cons_self
  | @element _ _ elements _ _ hmem _ ih =>
    show x ∈ elements.boundIdents.map (·.name)
    exact mem_boundIdents_of_item hmem ih
  | @property _ _ properties _ _ hmem _ ih =>
    show x ∈ properties.boundIdents.map (·.name)
    exact mem_boundIdents_of_item hmem ih
  | rest _ ih => exact ih
  | defaulted _ ih => exact ih
  | keyed _ ih => exact ih
  | shorthand _ ih => exact ih

theorem BindsDeclarator.mem_declaratorIdents {n : Node} (h : BindsDeclarator x n) :
    x ∈ n.declaratorIdents.map (·.name) := by
  obtain ⟨hmem,h⟩ := h
  obtain ⟨id,hid,rfl⟩ := List.mem_map.mp h.mem_boundIdents
  refine List.mem_map_of_mem ?_
  rw [Node.declaratorIdents_many]
  exact List.mem_flatMap.mpr ⟨_,hmem,hid⟩

theorem nestsStatements_of_mem {form : Form} {parts : List Node} {statement : Node}
    (h : statement ∈ nestedStatements form parts) :
    form.nestsStatements = true ∧
      ∃ part ∈ parts, statement = part ∨ statement ∈ part.items := by
  unfold nestedStatements at h
  split at h
  all_goals first
    | cases h
      done
    | refine ⟨rfl,?_⟩
      simp only [List.mem_cons,List.not_mem_nil,or_false,exists_eq_or_imp,exists_eq_left] at h ⊢
      grind

theorem mem_hoistedVars_items {part statement : Node} {name : String}
    (hmem : statement ∈ part.items) (h : name ∈ statement.hoistedVars) :
    name ∈ part.hoistedVars := by
  cases part with
  | many items =>
    rw [Node.hoistedVars,Node.hoistedVarsAll_eq]
    exact List.mem_flatMap.mpr ⟨statement,hmem,h⟩
  | absent => cases hmem
  | node => cases hmem

theorem VarDeclares.mem_hoistedVars {n : Node} (h : VarDeclares x n) : x ∈ n.hoistedVars := by
  induction h with
  | declaration h =>
    rw [Node.hoistedVars,if_pos ⟨rfl,rfl⟩,List.flatMap_singleton]
    exact h.mem_declaratorIdents
  | @nested span form parts statement hmem _ ih =>
    obtain ⟨hform,part,hpart,hstatement⟩ := nestsStatements_of_mem hmem
    have hpartHoists : x ∈ part.hoistedVars := by
      rcases hstatement with rfl | hitem
      · exact ih
      · exact mem_hoistedVars_items hitem ih
    have hnot : ∀ ctxt kind declare, form ≠ .variableDeclaration ctxt kind declare := by
      rintro ctxt kind declare rfl
      cases hform
    rw [Node.hoistedVars_node hnot,if_pos hform,Node.hoistedVarsAll_eq]
    exact List.mem_flatMap.mpr ⟨part,hpart,hpartHoists⟩

theorem DeclaresLexically.mem_valueNames {n : Node} (h : DeclaresLexically x n) :
    x ∈ n.valueNames := by
  cases h with
  | letOrConst _ h => exact h.mem_declaratorIdents
  | usingDeclaration h => exact h.mem_declaratorIdents

/-- What a statement declares, the collectors see, except for labelled functions. -/
theorem Declares.mem_valueNames {n : Node} (h : Declares x n) :
    x ∈ n.valueNames ∨
      ∃ span label body, n = .node span .labeled [label,body] ∧ DeclaresFunction x body := by
  cases h with
  | lexical h => exact .inl h.mem_valueNames
  | function h =>
    cases h with
    | function => exact .inl List.mem_cons_self
    | labeled h => exact .inr ⟨_,_,_,rfl,h⟩
  | classDeclaration => exact .inl List.mem_cons_self
  | enumDeclaration => exact .inl List.mem_cons_self
  | namespaceDeclaration hvalue =>
    refine .inl ?_
    rw [Node.valueNames,Node.leavesValue,hvalue]
    exact List.mem_cons_self

end Collectors

end Scope
end AsyncBody
