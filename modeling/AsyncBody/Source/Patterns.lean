import AsyncBody.Source.Types

/-!
The grammar of patterns: those that bind names, and those that an assignment destructures into,
whose targets are expressions.
-/
namespace AsyncBody.Source

open Source.Parser

namespace Patterns

def withDefault (g : Grammar) (pattern : Parser Node) : Parser Node := do
  let s ← start
  let left ← pattern
  if ← eatMark "=" then
    let right ← within ({ · with noIn := false }) (g .assignment)
    return .node (← spanFrom s) .assignmentPattern [left, right]
  else return left

def rest (pattern : Parser Node) : Parser Node := do
  let s ← start
  expectMark "..."
  let dots ← spanFrom s
  let argument ← pattern
  return .node (← spanFrom s) (.restElement dots) [argument, .absent]

/-- `[element, ...]`, in which an element can be left out. -/
def array (g : Grammar) (target : Parser Node) : Parser Node := do
  let s ← start
  expectMark "["
  let elements ← repeated do
    if ← eatMark "]" then return none
    if ← eatMark "," then return some Node.absent
    let element ← if ← isMark "..." then rest target else withDefault g target
    unless ← isMark "]" do expectMark ","
    return some element
  return .node (← spanFrom s) (.arrayPattern false) [.many elements, .absent]

/-- The key of a property that is not computed. -/
def plainKey? (l : Lexeme) : Option Node :=
  match l.token with
  | .word name => some (.leaf l.span (.propertyName name))
  | .string value raw => some (StringLiteral.mk l.span value (some raw)).toNode
  | .number raw => some (.leaf l.span (.number (numberValue raw) (some raw)))
  | .bigint raw => some (.leaf l.span (.bigint raw))
  | _ => none

def key (g : Grammar) : Parser Node := do
  let l ← next
  match plainKey? l with
  | some key => return key
  | none =>
    if l.token != .mark "[" then fail
    let expression ← within ({ · with noIn := false }) (g .assignment)
    expectMark "]"
    return .node (← spanFrom l.span.start) .computed [expression]

def keyed (g : Grammar) (target : Parser Node) : Parser Node := do
  let key ← key g
  expectMark ":"
  let value ← withDefault g target
  return .node .nowhere .keyValuePattern [key, value]

def shorthand (g : Grammar) : Parser Node := do
  let s ← start
  let name ← identifier
  let value ←
    if ← eatMark "=" then within ({ · with noIn := false }) (g .assignment) else pure .absent
  return .node (← spanFrom s) .shorthandPattern [name.pattern, value]

def object (g : Grammar) (target : Parser Node) : Parser Node := do
  let s ← start
  expectMark "\x7b"
  let property : Parser Node := do
    if ← isMark "..." then rest target else keyed g target <|> shorthand g
  let properties ← separated property "\x7d"
  return .node (← spanFrom s) (.objectPattern false) [.many properties, .absent]

/-- A pattern whose last part is its type, with the type that follows it. -/
def ascribed (g : Grammar) (isOptional : Bool) (pattern : Node) : Parser Node := do
  let type ← Types.ascription? g
  match pattern with
  | .node span (.binding ctxt name _) _ => return .node span (.binding ctxt name isOptional) [type]
  | .node span (.arrayPattern _) [elements, _] =>
    return .node span (.arrayPattern isOptional) [elements, type]
  | .node span (.objectPattern _) [properties, _] =>
    return .node span (.objectPattern isOptional) [properties, type]
  | other => return other

def thisParameter : Parser Node := do
  typesOnly
  let l ← next
  if l.token == .word "this" then return (Ident.named "this" l.span).pattern else fail

/-- A binding pattern, without a type. -/
def untyped (g : Grammar) : Parser Node := do
  match (← peek).token with
  | .mark "[" => array g (g .pattern)
  | .mark "\x7b" => object g (g .pattern)
  | .word "this" => thisParameter
  | _ => return (← identifier).pattern

def binding (g : Grammar) : Parser Node := do
  if ← isMark "..." then
    let rest ← rest (untyped g)
    match rest with
    | .node span form [argument, _] =>
      return .node span form [argument, ← Types.ascription? g]
    | other => return other
  let pattern ← untyped g
  let isOptional ← if (← dialect).types then eatMark "?" else pure false
  ascribed g isOptional pattern

/-- A parameter of an arrow function, or the pattern of any other parameter. -/
def parameter (g : Grammar) : Parser Node := withDefault g (g .binding)

end Patterns
end AsyncBody.Source
