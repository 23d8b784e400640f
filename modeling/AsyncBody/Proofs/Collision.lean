import AsyncBody.Proofs.LoweredNames
import AsyncBody.Proofs.Placement

/-!
Which programs are refused for a hook that is bound at the top level: those that bind it there once
types are erased, and those that import a type under its name.
-/
namespace AsyncBody

open Scope (VarDeclares)
open Node (Leaves leaves_iff)

/-- An item binds a name at the top level once types are erased. -/
inductive BindsAtTop (x : String) : Node → Prop where
  | imported {span : Span} {specifiers : List ImportSpecifier} {source : StringLiteral}
      {phase : ImportPhase} {parts : List Node} {specifier : ImportSpecifier}
      (hmem : specifier ∈ specifiers) (hvalue : specifier.isType = false)
      (hx : specifier.bound.name = x) :
      BindsAtTop x (.node span (.importDeclaration specifiers source false phase) parts)
  | reference {span : Span} {isExport : Bool} {id : Ident} {parts : List Node} (hx : id.name = x) :
      BindsAtTop x (.node span (.importEquals isExport false id) parts)
  | declared {item : Node} {names : List String} (h : Leaves item names) (hx : x ∈ names) :
      BindsAtTop x item
  | exported {span : Span} {declaration : Node} {names : List String} (h : Leaves declaration names)
      (hx : x ∈ names) : BindsAtTop x (.node span .exportDeclaration [declaration])
  | defaultFunction {span place : Span} {id : Ident} {parts : List Node} (hx : id.name = x) :
      BindsAtTop x
        (.node span .exportDefaultDeclaration [.node place (.functionExpression (some id)) parts])
  | defaultClass {span place : Span} {id : Ident} {parts : List Node} (hx : id.name = x) :
      BindsAtTop x
        (.node span .exportDefaultDeclaration [.node place (.classExpression (some id)) parts])
  | hoisted {item : Node} (h : VarDeclares x item) : BindsAtTop x item

/-- An item imports a type under a name, of which nothing is left once types are erased. -/
inductive ImportsType (x : String) : Node → Prop where
  | declaration {span : Span} {specifiers : List ImportSpecifier} {source : StringLiteral}
      {phase : ImportPhase} {parts : List Node} {specifier : ImportSpecifier}
      (hmem : specifier ∈ specifiers) (hx : specifier.bound.name = x) :
      ImportsType x (.node span (.importDeclaration specifiers source true phase) parts)
  | specifier {span : Span} {specifiers : List ImportSpecifier} {source : StringLiteral}
      {phase : ImportPhase} {parts : List Node} {specifier : ImportSpecifier}
      (hmem : specifier ∈ specifiers) (htype : specifier.isType = true)
      (hx : specifier.bound.name = x) :
      ImportsType x (.node span (.importDeclaration specifiers source false phase) parts)
  | reference {span : Span} {isExport : Bool} {id : Ident} {parts : List Node} (hx : id.name = x) :
      ImportsType x (.node span (.importEquals isExport true id) parts)

namespace Node

variable {x : String} {n : Node}

theorem bindsAtTop_of_itemNames (hshape : n.shaped = true) (hx : x ∈ n.itemNames) :
    BindsAtTop x n ∨ ImportsType x n := by
  unfold itemNames at hx
  split at hx
  · rename_i specifiers source typeOnly phase parts
    obtain ⟨specifier,hmem,rfl⟩ := List.mem_map.mp hx
    cases typeOnly with
    | true => exact .inr (.declaration hmem rfl)
    | false =>
      cases htype : specifier.isType with
      | true => exact .inr (.specifier hmem htype rfl)
      | false => exact .inl (.imported hmem htype rfl)
  · have hdeclaration := (shaped_node_iff.mp hshape).2 _ List.mem_cons_self
    exact .inl (.exported (leaves_valueNames hdeclaration) hx)
  · rename_i name _
    obtain ⟨id,hid,rfl⟩ := List.mem_map.mp hx
    obtain rfl := Option.mem_toList.mp hid
    exact .inl (.defaultClass rfl)
  · rename_i name _
    obtain ⟨id,hid,rfl⟩ := List.mem_map.mp hx
    obtain rfl := Option.mem_toList.mp hid
    exact .inl (.defaultFunction rfl)
  · rename_i typeOnly id parts
    obtain rfl := List.mem_singleton.mp hx
    cases typeOnly with
    | true => exact .inr (.reference rfl)
    | false => exact .inl (.reference rfl)
  · split at hx
    · exact .inl (.declared (leaves_valueNames hshape) hx)
    · cases hx

/-- The names that are collected from an item are those that it binds, and those of the types that
it imports. -/
theorem bindsAtTop_iff (hshape : n.shaped = true) (hplaced : n.wellPlaced .statement = true) :
    BindsAtTop x n ∨ ImportsType x n ↔ x ∈ n.collectedVars ∨ x ∈ n.itemNames := by
  constructor
  · rintro (h | h)
    · cases h with
      | imported hmem _ hx => exact .inr (hx ▸ List.mem_map_of_mem hmem)
      | reference hx => exact .inr (List.mem_singleton.mpr hx.symm)
      | declared h hx =>
        obtain rfl := (leaves_iff hshape).mp h
        exact .inr (itemNames_of_valueNames hx)
      | exported h hx =>
        obtain rfl := (leaves_iff ((shaped_node_iff.mp hshape).2 _ List.mem_cons_self)).mp h
        exact .inr hx
      | defaultFunction hx => exact .inr (List.mem_singleton.mpr hx.symm)
      | defaultClass hx => exact .inr (List.mem_singleton.mpr hx.symm)
      | hoisted h => exact .inl (mem_collectedVars_of_hoistedVars h.mem_hoistedVars)
    · cases h with
      | declaration hmem hx => exact .inr (hx ▸ List.mem_map_of_mem hmem)
      | specifier hmem _ hx => exact .inr (hx ▸ List.mem_map_of_mem hmem)
      | reference hx => exact .inr (List.mem_singleton.mpr hx.symm)
  · rintro (hx | hx)
    · exact .inl (.hoisted ((mem_collectedVars_iff hshape hplaced).mp hx))
    · exact bindsAtTop_of_itemNames hshape hx

end Node

namespace Program

variable {options : Options} {p : Program}

theorem mem_topLevelNames_iff {x : String} (hshape : p.shaped = true)
    (hplaced : p.wellPlaced = true) :
    x ∈ p.topLevelNames ↔ ∃ item ∈ p.body, BindsAtTop x item ∨ ImportsType x item := by
  have hitem : ∀ item ∈ p.body, item.shaped = true ∧ item.wellPlaced .statement = true :=
    fun item hmem => ⟨(Node.shapedAll_iff p.body).mp hshape item hmem,
      Node.wellPlacedAll_iff.mp hplaced item hmem⟩
  rw [topLevelNames,List.mem_append,Node.collectedVarsAll_eq,List.mem_flatMap,List.mem_flatMap,
    ← exists_or]
  refine exists_congr fun item => ?_
  rw [← and_or_left]
  refine and_congr_right fun hmem => ?_
  rw [Node.bindsAtTop_iff (hitem item hmem).1 (hitem item hmem).2]

/-- A program is refused for a collision with the hook if and only if an item binds it at the top
level once types are erased, or imports a type under its name. -/
theorem toFunctionBody_collision_iff (hshape : p.shaped = true) (hplaced : p.wellPlaced = true)
    (hvalid : options.validate = .ok ()) :
    (p.toFunctionBody options).result = .error (.importNameCollision options.importName) ↔
      ∃ item ∈ p.body,
        BindsAtTop options.importName item ∨ ImportsType options.importName item := by
  rw [toFunctionBody_eq_collision,← mem_topLevelNames_iff hshape hplaced]
  exact ⟨fun h => h.2.2,fun h => ⟨hvalid,rfl,h⟩⟩

/-- `l: for (var { a: [$import] } of xs);` -/
def nestedVariable : Program :=
  let hook : Node := (Ident.named "$import" .nowhere).pattern
  let elements : Node := .node .nowhere (.arrayPattern false) [.many [.absent,hook],.absent]
  let property : Node := .node .nowhere .keyValuePattern [.leaf .nowhere (.propertyName "a"),elements]
  let pattern : Node := .node .nowhere (.objectPattern false) [.many [property],.absent]
  let head : Node := .node .nowhere (.variableDeclaration 0 .var false)
    [.many [.node .nowhere (.declarator false) [pattern,.absent]]]
  ⟨.module,.nowhere,[.node .nowhere .labeled [(Ident.named "l" .nowhere).reference,
    .node .nowhere (.forOfStatement false)
      [head,(Ident.named "xs" .nowhere).reference,.leaf .nowhere .empty]]],none⟩

theorem nestedVariable_collides :
    nestedVariable.shaped = true ∧ nestedVariable.wellPlaced = true ∧
      (nestedVariable.toFunctionBody {}).result = .error (.importNameCollision "$import") := by
  have hvalid : ({} : Options).validate = .ok () := rfl
  refine ⟨by decide,by decide,?_⟩
  refine (toFunctionBody_collision_iff (by decide) (by decide) hvalid).mpr ?_
  refine ⟨_,List.mem_cons_self,.inl (.hoisted ?_)⟩
  refine .nested List.mem_cons_self (.nested List.mem_cons_self (.declaration ?_))
  refine .intro List.mem_cons_self (.property List.mem_cons_self (.keyed ?_))
  exact .element (List.mem_cons_of_mem _ List.mem_cons_self) .name

section TypeImports

def typeSource : StringLiteral := .plain "m" .nowhere

/-- `import type { $import } from "m";` -/
def importedType : Node :=
  .node .nowhere (.importDeclaration
    [.named .nowhere (.named "$import" .nowhere) none false] typeSource true .evaluation) [.absent]

/-- `import { type $import } from "m";` -/
def importedTypeSpecifier : Node :=
  .node .nowhere (.importDeclaration
    [.named .nowhere (.named "$import" .nowhere) none true] typeSource false .evaluation) [.absent]

/-- `import type $import = require("m");` -/
def importedTypeAlias : Node :=
  .node .nowhere (.importEquals false true (.named "$import" .nowhere))
    [.leaf .nowhere (.externalModule typeSource)]

/-- A program of one item is refused for a collision with the hook, though nothing binds the hook
once types are erased. -/
def CollidesInVain (item : Node) : Prop :=
  ((⟨.module,.nowhere,[item],none⟩ : Program).toFunctionBody {}).result =
      .error (.importNameCollision "$import") ∧
    ¬ BindsAtTop "$import" item

end TypeImports

end Program

namespace BindsAtTop

theorem of_import {x : String} {span : Span} {specifiers : List ImportSpecifier}
    {source : StringLiteral} {typeOnly : Bool} {phase : ImportPhase} {parts : List Node}
    (h : BindsAtTop x (.node span (.importDeclaration specifiers source typeOnly phase) parts)) :
    typeOnly = false ∧ ∃ specifier ∈ specifiers, specifier.isType = false := by
  cases h with
  | imported hmem hvalue => exact ⟨rfl,_,hmem,hvalue⟩
  | declared h hx =>
    cases h with
    | erased => cases hx
    | statement => cases hx
  | hoisted h =>
    cases h with
    | nested hmem => cases hmem

theorem of_importEquals {x : String} {span : Span} {isExport typeOnly : Bool} {id : Ident}
    {parts : List Node} (h : BindsAtTop x (.node span (.importEquals isExport typeOnly id) parts)) :
    typeOnly = false := by
  cases h with
  | reference => rfl
  | declared h hx =>
    cases h with
    | erased => cases hx
    | statement => cases hx
  | hoisted h =>
    cases h with
    | nested hmem => cases hmem

end BindsAtTop

/-- A program that imports nothing but a type of the name of the hook is refused in vain, however it
marks the type. -/
theorem Program.typeImports_collide :
    CollidesInVain importedType ∧ CollidesInVain importedTypeSpecifier ∧
      CollidesInVain importedTypeAlias := by
  refine ⟨⟨rfl,fun h => ?_⟩,⟨rfl,fun h => ?_⟩,⟨rfl,fun h => ?_⟩⟩
  · cases h.of_import.1
  · obtain ⟨-,specifier,hmem,hvalue⟩ := h.of_import
    obtain rfl := List.mem_singleton.mp hmem
    cases hvalue
  · cases h.of_importEquals

end AsyncBody
