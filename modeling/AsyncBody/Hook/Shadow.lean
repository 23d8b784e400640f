import AsyncBody.Bindings
import AsyncBody.Hook.Use

/-!
Shadowed uses of the hook: those inside a nested scope that binds its name, where the routed use
would reach the wrong value.
-/
namespace AsyncBody

namespace Hook

def namesIn (idents : List Ident) (hook : String) : Bool := idents.any (·.name == hook)

def bindsPattern (hook : String) (pattern : Node) : Bool := namesIn pattern.boundIdents hook

def bindsParameter (hook : String) : Node → Bool
  | .node _ .parameter [_, pattern] => bindsPattern hook pattern
  | _ => false

/-- The body of a function binds what hoists to it; an expression binds nothing. -/
def bindsBody (hook : String) (body : Node) : Bool := body.collectedVars.contains hook

def bindsAsDeclaration (hook : String) (statement : Node) : Bool :=
  namesIn statement.declaredIdents hook

/-- The head of a loop binds by `let` and `const`; a `var` in it belongs to the function. -/
def bindsHead (hook : String) : Node → Bool
  | .node _ (.variableDeclaration _ kind _) [declarators] =>
    kind != .var && namesIn declarators.declaratorIdents hook
  | _ => false

def bindsCase (hook : String) : Node → Bool
  | .node _ .switchCase [_, consequent] => consequent.items.any (bindsAsDeclaration hook)
  | _ => false

def bindsOwnName (hook : String) (name : Option Ident) : Bool := namesIn name.toList hook

/-- Whether the scope that a form opens, if it opens one, binds the hook. -/
def rebinds (hook : String) : Form → List Node → Bool
  | .function .., params :: _ :: body :: _ =>
    params.items.any (bindsParameter hook) || bindsBody hook body
  | .arrow .., params :: body :: _ => bindsPattern hook params || bindsBody hook body
  | .constructor .., _ :: params :: body :: _ =>
    params.items.any (bindsParameter hook) || bindsBody hook body
  | .getter, [_, _, body] => bindsBody hook body
  | .setter, [_, _, param, body] => bindsPattern hook param || bindsBody hook body
  | .staticBlock, [body] => bindsBody hook body
  | .functionExpression name, _ => bindsOwnName hook name
  | .classExpression name, _ => bindsOwnName hook name
  | .block _, [statements] => statements.items.any (bindsAsDeclaration hook)
  | .catchClause, param :: _ => bindsPattern hook param
  | .forStatement, init :: _ => bindsHead hook init
  | .forInStatement, left :: _ => bindsHead hook left
  | .forOfStatement _, left :: _ => bindsHead hook left
  | _, _ => false

end Hook

namespace Node

open Hook

mutual

/-- The uses of the hook inside scopes that rebind it; `shadowed` tells whether the node stands in
one. The discriminant of a `switch` lies outside the scope of its cases. -/
def shadowedUses (hook : String) (shadowed : Bool) : Node → List HookUse
  | .absent => []
  | .many items => shadowedUsesAll hook shadowed items
  | .node _ .switchStatement [discriminant, cases] =>
    shadowedUses hook shadowed discriminant ++
      shadowedUses hook (shadowed || cases.items.any (bindsCase hook)) cases
  | .node span form parts =>
    (if shadowed then (use? (.node span form parts)).toList else []) ++
      shadowedUsesAll hook (shadowed || rebinds hook form parts) parts

def shadowedUsesAll (hook : String) (shadowed : Bool) : List Node → List HookUse
  | [] => []
  | item :: rest => shadowedUses hook shadowed item ++ shadowedUsesAll hook shadowed rest

end

end Node

def Program.shadowedUses (hook : String) (p : Program) : List HookUse :=
  Node.shadowedUsesAll hook false p.body

end AsyncBody
