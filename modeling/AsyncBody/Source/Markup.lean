import AsyncBody.Source.Patterns

/-!
The grammar of markup elements. Between tags a source is read by characters, not by tokens.
-/
namespace AsyncBody.Source

open Source.Parser

namespace Markup

def advance (count : Nat) : Parser Unit where
  run _ c :=
    let stop := c.position + width (c.rest.take count)
    some ((), ⟨c.rest.drop count,stop,stop⟩)
  leaves h := by
    cases h
    exact List.drop_suffix _ _

def remaining : Parser (List Char) := look fun _ c => some c.rest

def skipBlanks : Parser Unit where
  run _ c :=
    (skip .blank 0 false c.rest).map fun s => ((), ⟨s.rest,c.position + s.width,c.last⟩)
  leaves h := by
    obtain ⟨s,hs,heq⟩ := Option.map_eq_some_iff.mp h
    cases heq
    exact skip_suffix hs

def position : Parser Nat := look fun _ c => some c.position

/-- A name of a tag or attribute, in which hyphens may stand. -/
def name : Parser (Span × String) := do
  skipBlanks
  let s ← position
  let cs ← remaining
  let front := cs.takeWhile fun c => Text.isIdContinue c || c = '-'
  match front with
  | c :: _ => if ! Text.isIdStart c then fail
  | [] => fail
  advance front.length
  return (← spanFrom s, String.ofList front)

def plainName : Parser Node := do
  let (span, text) ← name
  return .leaf span (.propertyName text)

/-- The name of a tag: plain, with a namespace, or dotted. -/
def tagName : Parser Node := do
  let s ← start
  let (span, text) ← name
  if ← eatMark ":" then
    let inner ← plainName
    return .node (← spanFrom s) .markupNamespacedName [.leaf span (.propertyName text), inner]
  let first := (Ident.named text span).reference
  extended (fun object => do
    if ← eatMark "." then
      let property ← plainName
      return some (.node (← spanFrom s) .markupMember [object, property])
    else return none) first

/-- An expression in braces, which may be empty. -/
def container (g : Grammar) : Parser Node := do
  let s ← start
  expectMark "\x7b"
  if ← isMark "..." then
    expectMark "..."
    let expression ← g .expression
    expectMark "\x7d"
    return .node (← spanFrom s) .spreadChild [expression]
  let expression ←
    if ← isMark "\x7d" then
      let t ← position
      pure (Node.leaf ⟨t,(← start)⟩ .emptyExpression)
    else g .expression
  expectMark "\x7d"
  return .node (← spanFrom s) .expressionContainer [expression]

/-- A string without escapes; `rest` follows the quote that opens it. -/
def quotedValue (s : Nat) (quote : Char) (rest : List Char) : Parser Node := do
  let value := rest.takeWhile (· != quote)
  if value.length = rest.length then fail
  advance (value.length + 2)
  let raw := String.ofList ([quote] ++ value ++ [quote])
  return .leaf (← spanFrom s) (.string (String.ofList value) (some raw))

/-- The value of an attribute: a string, an expression in braces or an element. -/
def attributeValue (g : Grammar) : Parser Node := do
  skipBlanks
  let s ← position
  match ← remaining with
  | '"' :: rest => quotedValue s '"' rest
  | '\'' :: rest => quotedValue s '\'' rest
  | '{' :: _ => container g
  | _ => g .element

def spreadAttribute (g : Grammar) : Parser Node := do
  expectMark "\x7b"
  let s ← start
  expectMark "..."
  let dots ← spanFrom s
  let expression ← g .assignment
  expectMark "\x7d"
  return .node .nowhere (.spread dots) [expression]

def tagAttribute (g : Grammar) : Parser Node := do
  if ← isMark "\x7b" then return ← spreadAttribute g
  let s ← start
  let (span, text) ← name
  let plain := Node.leaf span (.propertyName text)
  let name ←
    if ← eatMark ":" then
      let inner ← plainName
      pure (Node.node (← spanFrom s) .markupNamespacedName [plain, inner])
    else pure plain
  let value ← if ← eatMark "=" then attributeValue g else pure .absent
  return .node (← spanFrom s) .markupAttribute [name, value]

def tagAttributes (g : Grammar) : Parser (List Node) := repeated do
  if (← isAngle) || (← isMark "/") then return none else return some (← tagAttribute g)

/-- Text up to the next tag or expression. -/
def text : Parser Node := do
  let s ← position
  let front := (← remaining).takeWhile fun c => c != '<' && c != '{'
  if front.any fun c => c = '>' || c = '}' then fail
  advance front.length
  return .leaf (← spanFrom s) (.markupText (String.ofList front) (String.ofList front))

def isClosing : Parser Bool := do
  if ← isMark "<" then return (← peekSecond).token == .mark "/" else return false

/-- Text, expressions and elements up to the closing tag. -/
def children (g : Grammar) : Parser (List Node) := repeated do
  match ← remaining with
  | '<' :: _ => if ← isClosing then return none else return some (← g .element)
  | '{' :: _ => return some (← container g)
  | [] => fail
  | _ => return some (← text)

mutual

def sameName : Node → Node → Bool
  | .node _ f ps, .node _ f' ps' => sameForm f f' && sameNames ps ps'
  | _, _ => true

def sameNames : List Node → List Node → Bool
  | p :: ps, p' :: ps' => sameName p p' && sameNames ps ps'
  | [], [] => true
  | _, _ => false

def sameForm : Form → Form → Bool
  | .ident _ name _, .ident _ name' _ => name == name'
  | .propertyName name, .propertyName name' => name == name'
  | .markupMember, .markupMember | .markupNamespacedName, .markupNamespacedName => true
  | _, _ => false

end

def fragment (g : Grammar) (s : Nat) : Parser Node := do
  expectAngle
  let opening := Node.leaf (← spanFrom s) .openingFragment
  let children ← children g
  let t ← start
  expectMark "<"
  expectMark "/"
  expectAngle
  let closing := Node.leaf (← spanFrom t) .closingFragment
  return .node (← spanFrom s) .fragment [opening, .many children, closing]

def element (g : Grammar) : Parser Node := do
  unless (← dialect).markup do fail
  let s ← start
  expectMark "<"
  if ← isAngle then return ← fragment g s
  let name ← tagName
  let arguments ← Types.typeArguments? g
  let attributes ← tagAttributes g
  let parts := [name, .many attributes, arguments]
  if ← eatMark "/" then
    expectAngle
    let span ← spanFrom s
    return .node span .element [.node span (.openingElement true) parts, .many [], .absent]
  expectAngle
  let opening := Node.node (← spanFrom s) (.openingElement false) parts
  let children ← children g
  let t ← start
  expectMark "<"
  expectMark "/"
  let closingName ← tagName
  expectAngle
  unless sameName name closingName do fail
  let closing := Node.node (← spanFrom t) .closingElement [closingName]
  return .node (← spanFrom s) .element [opening, .many children, closing]

end Markup
end AsyncBody.Source
