import AsyncBody.Tree.Basic

/-!
Expressions read as the targets of assignments: a literal to the left of `=` is a pattern.
-/
namespace AsyncBody

/-- Expressions that name a place which can be assigned to. -/
def Form.isPlace : Form → Bool
  | .member | .superProperty | .parenthesis | .nonNull | .asExpression | .satisfiesExpression
  | .typeAssertion | .binding .. | .arrayPattern _ | .objectPattern _ => true
  | _ => false

namespace Node

mutual

/-- The target that an expression is read as; literals only if it may be a `pattern`. -/
def target? (pattern : Bool) : Node → Option Node
  | .node span (.ident ctxt name optional) _ =>
    some (.node span (.binding ctxt name optional) [.absent])
  | .node span .object [.many properties] => do
    guard pattern
    return .node span (.objectPattern false) [.many (← propertyTargets? properties), .absent]
  | .node span .array [.many elements] => do
    guard pattern
    return .node span (.arrayPattern false) [.many (← elementTargets? elements), .absent]
  | .node span (.assignment "=") parts =>
    if pattern then some (.node span .assignmentPattern parts) else none
  | .node span form parts => if form.isPlace then some (.node span form parts) else none
  | _ => none

def propertyTargets? : List Node → Option (List Node)
  | [] => some []
  | .node span (.ident ctxt name optional) _ :: rest => do
    let key := Node.node span (.binding ctxt name optional) [.absent]
    return .node span .shorthandPattern [key, .absent] :: (← propertyTargets? rest)
  | .node span .shorthandPattern parts :: rest =>
    return .node span .shorthandPattern parts :: (← propertyTargets? rest)
  | .node span .keyValue [key, value] :: rest =>
    return .node span .keyValuePattern [key, ← target? true value] :: (← propertyTargets? rest)
  | .node _ (.spread dots) [argument] :: rest => do
    let argument ← target? true argument
    return .node ⟨dots.start,argument.span.stop⟩ (.restElement dots) [argument, .absent] ::
      (← propertyTargets? rest)
  | _ => none

def elementTargets? : List Node → Option (List Node)
  | [] => some []
  | .absent :: rest => return .absent :: (← elementTargets? rest)
  | .node _ (.argument none) [element] :: rest =>
    return (← target? true element) :: (← elementTargets? rest)
  | .node _ (.argument (some dots)) [argument] :: rest => do
    let argument ← target? true argument
    return .node ⟨dots.start,argument.span.stop⟩ (.restElement dots) [argument, .absent] ::
      (← elementTargets? rest)
  | _ => none

end

def isUnread : Node → Bool
  | .node _ .shorthandPattern _ => true
  | _ => false

mutual

/-- Whether some object literal has a name with a default, so that it should have been a pattern. -/
def hasUnread : Node → Bool
  | .absent => false
  | .many items => hasUnreadAny items
  | .node _ .object [.many properties] =>
    properties.any isUnread || hasUnreadAny properties
  | .node _ _ parts => hasUnreadAny parts

def hasUnreadAny : List Node → Bool
  | [] => false
  | item :: rest => hasUnread item || hasUnreadAny rest

end

end Node
end AsyncBody
