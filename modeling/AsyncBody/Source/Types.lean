import AsyncBody.Source.Parser

/-!
The grammar of types.
-/
namespace AsyncBody.Source

open Source.Parser

namespace Types

/-- Words that name a type without being its reference. -/
def keywordTypes : List String :=
  ["any", "unknown", "number", "object", "boolean", "bigint", "string", "symbol", "void",
    "undefined", "null", "never", "intrinsic"]

/-- `: type`. -/
def ascription (g : Grammar) : Parser Node := do
  let s ← start
  expectMark ":"
  let type ← g .type
  return .node (← spanFrom s) .ascription [type]

def ascription? (g : Grammar) : Parser Node := do
  if (← dialect).types && (← isMark ":") then ascription g else return .absent

def entityName : Parser Node := do
  let s ← start
  let first ← identifier
  extended (fun left => do
    if ← eatMark "." then
      let right ← identifier
      return some (.node (← spanFrom s) .qualifiedName
        [left, .leaf right.span (.propertyName right.name)])
    else return none) first.reference

def typeArguments (g : Grammar) : Parser Node := do
  let s ← start
  let types ← angled (g .type)
  return .node (← spanFrom s) .typeArguments [.many types]

def typeArguments? (g : Grammar) : Parser Node := do
  if (← dialect).types && (← isMark "<") then typeArguments g else return .absent

def typeParameter (g : Grammar) : Parser Node := do
  let s ← start
  let isConst ← eatWord "const"
  let name ← identifier
  let constraint ← if ← eatWord "extends" then g .type else pure .absent
  let default ← if ← eatMark "=" then g .type else pure .absent
  return .node (← spanFrom s) (.typeParameter false false isConst)
    [name.reference, constraint, default]

/-- `<name, ...>`, if types are allowed here and it follows. -/
def typeParameters? (g : Grammar) : Parser Node := do
  if (← dialect).types && (← isMark "<") then
    let s ← start
    let parameters ← angled (typeParameter g)
    return .node (← spanFrom s) .typeParameters [.many parameters]
  else return .absent

def parameters (g : Grammar) : Parser Node := do
  expectMark "("
  return .many (← separated (g .binding) ")")

/-- What a function gives: a type, or a predicate on a parameter. -/
def result (g : Grammar) : Parser Node := do
  let s ← start
  let predicate : Parser Node := do
    let asserts ← if (← peekSecond).token matches .word "is" then pure false else eatWord "asserts"
    let l ← peek
    if l.newLine && asserts then fail
    let name ← identifier
    let type ←
      if ← eatWord "is" then
        let t ← start
        let type ← g .type
        pure (Node.node (← spanFrom t) .ascription [type])
      else if asserts then pure .absent
      else fail
    return .node (← spanFrom s) (.typePredicate asserts) [name.reference, type]
  predicate <|> g .type

def resultAfter (g : Grammar) (mark : String) : Parser Node := do
  let s ← start
  expectMark mark
  let type ← result g
  return .node (← spanFrom s) .ascription [type]

def functionType (g : Grammar) : Parser Node := do
  let s ← start
  let isAbstract ← eatWord "abstract"
  let constructs ← eatWord "new"
  let typeParameters ← typeParameters? g
  let params ← parameters g
  let result ← resultAfter g "=>"
  let form := if constructs then Form.constructorType isAbstract else Form.functionType
  return .node (← spanFrom s) form [params, typeParameters, result]

def endMember : Parser Unit := do
  unless ← eatMark "," do semicolon

def memberKey (g : Grammar) : Parser (Node × Bool) := do
  let l ← peek
  match l.token with
  | .mark "[" =>
    expectMark "["
    let key ← g .assignment
    expectMark "]"
    return (key, true)
  | .string value raw =>
    takeLexeme l
    return ((StringLiteral.mk l.span value (some raw)).toNode, false)
  | .number raw =>
    takeLexeme l
    return (.leaf l.span (.number (numberValue raw) (some raw)), false)
  | .word name =>
    takeLexeme l
    return ((Ident.named name l.span).reference, false)
  | _ => fail

def indexSignature (g : Grammar) : Parser Node := do
  let s ← start
  let readonly ← if (← peekSecond).token == .mark "[" then eatWord "readonly" else pure false
  expectMark "["
  let t ← start
  let name ← identifier
  let type ← ascription g
  let parameter := Node.node (← spanFrom t) (.binding 0 name.name false) [type]
  expectMark "]"
  let type ← ascription? g
  endMember
  return .node (← spanFrom s) (.indexSignature readonly false) [.many [parameter], type]

def signature (g : Grammar) : Parser Node := do
  let s ← start
  let constructs ← eatWord "new"
  let typeParameters ← typeParameters? g
  let params ← parameters g
  let result ← if ← isMark ":" then resultAfter g ":" else pure .absent
  endMember
  let form := if constructs then Form.constructSignature else Form.callSignature
  return .node (← spanFrom s) form [params, result, typeParameters]

def isKeyEnd : Token → Bool
  | .mark m => [":", "?", "(", "<", ";", ",", "\x7d"].contains m
  | .stop => true
  | _ => false

def namedMember (g : Grammar) : Parser Node := do
  let s ← start
  let readonly ←
    if isKeyEnd (← peekSecond).token then pure false else eatWord "readonly"
  let (key, isComputed) ← memberKey g
  let isOptional ← eatMark "?"
  if (← isMark "(") || (← isMark "<") then
    let typeParameters ← typeParameters? g
    let params ← parameters g
    let result ← if ← isMark ":" then resultAfter g ":" else pure .absent
    endMember
    return .node (← spanFrom s) (.methodSignature isComputed isOptional)
      [key, params, result, typeParameters]
  else
    let type ← ascription? g
    endMember
    return .node (← spanFrom s) (.propertySignature readonly isComputed isOptional) [key, type]

def member (g : Grammar) : Parser Node := do
  let first ← peek
  let second ← peekSecond
  match first.token, second.token with
  | .mark "(", _ | .mark "<", _ | .word "new", .mark "(" | .word "new", .mark "<" => signature g
  | _, _ => indexSignature g <|> namedMember g

/-- `{ member; ... }`. -/
def members (g : Grammar) : Parser Node := do
  expectMark "\x7b"
  let members ← repeated do
    if ← eatMark "\x7d" then return none else return some (← member g)
  return .many members

def tupleElement (g : Grammar) : Parser Node := do
  let s ← start
  let labelled : Parser Node := do
    let isRest ← eatMark "..."
    let name ← anyWord
    let isOptional ← eatMark "?"
    expectMark ":"
    let type ← g .type
    let pattern := Node.node name.span (.binding 0 name.name isOptional) [.absent]
    let label ←
      if isRest then
        pure (Node.node (← spanFrom s) (.restElement ⟨s,s + 3⟩) [pattern, .absent])
      else pure pattern
    return .node (← spanFrom s) .tupleElement [label, type]
  let plain : Parser Node := do
    if ← eatMark "..." then
      let type ← g .type
      let span ← spanFrom s
      return .node span .tupleElement [.absent, .node span .restType [type]]
    else
      let type ← g .type
      let type ←
        if ← eatMark "?" then pure (Node.node (← spanFrom s) .optionalType [type]) else pure type
      return .node (← spanFrom s) .tupleElement [.absent, type]
  labelled <|> plain

/-- `import(source)`, with a name in that module after it or without. -/
def importType (g : Grammar) : Parser Node := do
  let s ← start
  expectWord "import"
  expectMark "("
  let source ← stringLiteral
  expectMark ")"
  let qualifier ← if ← eatMark "." then entityName else pure .absent
  let arguments ← typeArguments? g
  return .node (← spanFrom s) .importType [source.toNode, qualifier, arguments, .absent]

def literalType (span : Span) (literal : Form) : Node :=
  .node span .literalType [.leaf span literal]

def primary (g : Grammar) : Parser Node := do
  let l ← peek
  let s := l.span.start
  match l.token with
  | .string value raw =>
    takeLexeme l
    return literalType l.span (.string value (some raw))
  | .number raw =>
    takeLexeme l
    return literalType l.span (.number (numberValue raw) (some raw))
  | .bigint raw =>
    takeLexeme l
    return literalType l.span (.bigint raw)
  | .mark "-" =>
    takeLexeme l
    let n ← next
    match n.token with
    | .number raw =>
      let value := numberValue raw
      return literalType (← spanFrom s) (.number ⟨-value.digits,value.places⟩ (some ("-" ++ raw)))
    | _ => fail
  | .mark "(" =>
    takeLexeme l
    let type ← g .type
    expectMark ")"
    return .node (← spanFrom s) .parenthesizedType [type]
  | .mark "[" =>
    takeLexeme l
    let elements ← separated (tupleElement g) "]"
    return .node (← spanFrom s) .tupleType [.many elements]
  | .mark "\x7b" =>
    let members ← members g
    return .node (← spanFrom s) .typeLiteral [members]
  | .word "this" =>
    takeLexeme l
    return .leaf l.span .thisType
  | .word "true" =>
    takeLexeme l
    return literalType l.span (.boolean true)
  | .word "false" =>
    takeLexeme l
    return literalType l.span (.boolean false)
  | .word "typeof" =>
    takeLexeme l
    let name ← if ← isWord "import" then importType g else entityName
    let arguments ← typeArguments? g
    return .node (← spanFrom s) .typeQuery [name, arguments]
  | .word "import" => importType g
  | .word name =>
    let second ← peekSecond
    if keywordTypes.contains name && second.token != .mark "." then
      takeLexeme l
      return .leaf l.span (.keywordType name)
    else
      let name ← entityName
      let isArguments := (← isMark "<") && ! (← peek).newLine
      let arguments ← if isArguments then typeArguments g else pure .absent
      return .node (← spanFrom s) .typeReference [name, arguments]
  | _ => fail

/-- A type followed by any number of `[]` and `[index]` on the same line. -/
def postfixed (g : Grammar) : Parser Node := do
  let s ← start
  let type ← primary g
  extended (fun type => do
    let l ← peek
    if l.token == .mark "[" && ! l.newLine then
      takeLexeme l
      if ← eatMark "]" then return some (.node (← spanFrom s) .arrayType [type])
      let index ← g .type
      expectMark "]"
      return some (.node (← spanFrom s) (.indexedAccess false) [type, index])
    else return none) type

def operators : List String := ["keyof", "unique", "readonly"]

def isTypeStart : Token → Bool
  | .word _ | .string .. | .number _ | .bigint _ => true
  | .mark m => ["(", "[", "\x7b", "-"].contains m
  | _ => false

/-- The bound of an inferred type. If a question mark follows, `extends` asks about the type
instead. -/
def inferredBound (g : Grammar) : Parser Node := do
  let bound ← optional do
    expectWord "extends"
    let type ← g .plainType
    if ← isMark "?" then fail
    return type
  return bound.getD .absent

/-- Operators in front of a type; a word that no type follows is a name. -/
def operated (g : Grammar) : Parser Node := do
  let s ← start
  let applied ← repeated do
    match (← peek).token with
    | .word w =>
      if (operators.contains w || w == "infer") && isTypeStart (← peekSecond).token then
        let l ← next
        return some (w, l.span.start)
      else return none
    | _ => return none
  let type ←
    match applied.getLast? with
    | some ("infer", t) =>
      let u ← start
      let name ← identifier
      let bound ← inferredBound g
      let parameter := Node.node (← spanFrom u) (.typeParameter false false false)
        [name.reference, bound, .absent]
      pure (Node.node (← spanFrom t) .inferType [parameter])
    | _ => postfixed g
  let stop := (← spanFrom s).stop
  let others := applied.filter (·.1 != "infer")
  return others.foldr (fun (w, t) type => .node ⟨t,stop⟩ (.typeOperator w) [type]) type

/-- Operands joined by a mark, which may also stand before the first. -/
def joined (operand : Parser Node) (mark : String) (form : Form) : Parser Node := do
  let s ← start
  let _ ← eatMark mark
  let first ← operand
  let others ← repeated do
    if ← eatMark mark then return some (← operand) else return none
  if others.isEmpty then return first
  return .node (← spanFrom s) form [.many (first :: others)]

def union (g : Grammar) : Parser Node :=
  joined (joined (operated g) "&" .intersectionType) "|" .unionType

def plainType (g : Grammar) : Parser Node := functionType g <|> union g

def type (g : Grammar) : Parser Node := do
  let s ← start
  let check ← plainType g
  let l ← peek
  if l.token == .word "extends" && ! l.newLine then
    let conditional : Parser Node := do
      takeLexeme l
      let bound ← g .plainType
      expectMark "?"
      let yes ← g .type
      expectMark ":"
      let no ← g .type
      return .node (← spanFrom s) .conditionalType [check, bound, yes, no]
    conditional <|> return check
  else return check

end Types
end AsyncBody.Source
