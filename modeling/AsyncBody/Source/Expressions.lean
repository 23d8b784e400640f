import AsyncBody.Source.Functions
import AsyncBody.Source.Markup
import AsyncBody.Source.Targets

/-!
The grammar of expressions.
-/
namespace AsyncBody.Source

open Source.Parser

namespace Expressions

/-- Inside brackets, `in` is an operator again and an arrow function may state its result. -/
def enclosed {α : Type} (p : Parser α) : Parser α :=
  within ({ · with noIn := false, returnTypes := true }) p

def argument (g : Grammar) : Parser Node := do
  let s ← start
  if ← eatMark "..." then
    let dots ← spanFrom s
    return .node .nowhere (.argument (some dots)) [← g .assignment]
  else return .node .nowhere (.argument none) [← g .assignment]

def arguments (g : Grammar) : Parser (List Node) := do
  expectMark "("
  enclosed (separated (argument g) ")")

def array (g : Grammar) : Parser Node := do
  let s ← start
  expectMark "["
  let elements ← enclosed <| repeated do
    if ← eatMark "]" then return none
    if ← eatMark "," then return some Node.absent
    let element ← argument g
    unless ← isMark "]" do expectMark ","
    return some element
  return .node (← spanFrom s) .array [.many elements]

def spread (g : Grammar) : Parser Node := do
  let s ← start
  expectMark "..."
  let dots ← spanFrom s
  return .node .nowhere (.spread dots) [← g .assignment]

def accessor (g : Grammar) (s : Nat) (isGetter : Bool) : Parser Node := do
  let key ← Patterns.key g
  within (Functions.inside false false) do
    expectMark "("
    if isGetter then
      expectMark ")"
      let type ← Types.ascription? g
      let body ← g .block
      return .node (← spanFrom s) .getter [key, type, body]
    else
      let param ← Patterns.parameter g
      let _ ← eatMark ","
      expectMark ")"
      let body ← g .block
      return .node (← spanFrom s) .setter [key, .absent, param, body]

/-- A property of an object literal. A name with a default is one only of a pattern, and is left for
the literal to be read as one. -/
def property (g : Grammar) : Parser Node := do
  let s ← start
  if ← isMark "..." then return ← spread g
  let (kind, isAsync, isGenerator) ← Functions.methodWords
  match kind with
  | .getter => accessor g s true
  | .setter => accessor g s false
  | .method =>
    let l ← peek
    let key ← Patterns.key g
    if (← isMark "(") || (← isMark "<") then
      let function ← Functions.function g s isAsync isGenerator
      return .node .nowhere .method [key, function]
    if isAsync || isGenerator then fail
    if ← eatMark ":" then return .node .nowhere .keyValue [key, ← g .assignment]
    match l.token with
    | .word name =>
      unless isIdentifier (← context) name do fail
      let id := Ident.named name l.span
      if ← eatMark "=" then
        let value ← g .assignment
        return .node (← spanFrom s) .shorthandPattern [id.pattern, value]
      else return id.reference
    | _ => fail

def object (g : Grammar) : Parser Node := do
  let s ← start
  expectMark "\x7b"
  let properties ← enclosed (separated (property g) "\x7d")
  return .node (← spanFrom s) .object [.many properties]

def chunk : Parser (Node × Bool) where
  run _ c := (chunk? c.rest).map fun piece =>
    let stop := c.position + piece.width
    let span := ⟨c.position,stop - if piece.isLast then 1 else 2⟩
    let element := Node.leaf span (.templateElement piece.isLast piece.cooked piece.raw)
    ((element, piece.isLast), ⟨piece.rest,stop,stop⟩)
  leaves h := by
    obtain ⟨piece,hpiece,heq⟩ := Option.map_eq_some_iff.mp h
    cases heq
    exact chunk?_suffix hpiece

/-- A template: pieces of text with expressions between them. -/
def template (g : Grammar) : Parser Node := do
  let s ← start
  expectMark "`"
  let (first, isLast) ← chunk
  let pieces ← extended (fun (isLast, pieces) => do
    if isLast then return none
    let expression ← enclosed (g .expression)
    unless (← isMark "\x7d") do fail
    let _ ← next
    let (piece, isLast) ← chunk
    return some (isLast, pieces ++ [(expression, piece)])) (isLast, ([] : List (Node × Node)))
  let pieces := pieces.2
  return .node (← spanFrom s) .template
    [.many (pieces.map (·.1)), .many (first :: pieces.map (·.2))]

def parenthesized (g : Grammar) : Parser Node := do
  let s ← start
  expectMark "("
  let expression ← enclosed (g .expression)
  expectMark ")"
  return .node (← spanFrom s) .parenthesis [expression]

/-- A regular expression; the slash before it is the next token. -/
def regex : Parser Node := do
  let s ← start
  Markup.skipBlanks
  match ← Markup.remaining with
  | '/' :: rest =>
    match regexBody false rest with
    | none => fail
    | some count =>
      let flags := (rest.drop (count + 1)).takeWhile Text.isIdContinue
      Markup.advance (count + 2 + flags.length)
      return .leaf (← spanFrom s)
        (.regex (String.ofList (rest.take count)) (String.ofList flags))
  | _ => fail

def phaseOf? : String → Option ImportPhase
  | "source" => some .source
  | "defer" => some .defer
  | _ => none

/-- `import(...)`, `import.meta`, or a dynamic import in another phase. -/
def importExpression (g : Grammar) : Parser Node := do
  let s ← start
  expectWord "import"
  let (callee, isCall) ←
    if ← eatMark "." then
      let name ← anyWord
      let span ← spanFrom s
      match name.name, phaseOf? name.name with
      | "meta", _ => pure (Node.leaf span (.metaProperty .importMeta), false)
      | _, some phase => pure (Node.leaf span (.importKeyword phase), true)
      | _, none => fail
    else pure (Node.leaf (← spanFrom s) (.importKeyword .evaluation), true)
  if ! isCall then return callee
  let arguments ← arguments g
  if arguments.isEmpty then fail
  return .node (← spanFrom s) (.call 0) [callee, .many arguments, .absent]

def superExpression (g : Grammar) : Parser Node := do
  let s ← start
  expectWord "super"
  let super := Node.leaf (← spanFrom s) .super
  if ← eatMark "." then
    let property ← propertyName
    return .node (← spanFrom s) .superProperty [super, property]
  if ← isMark "[" then
    let t ← start
    expectMark "["
    let expression ← enclosed (g .expression)
    expectMark "]"
    let property := Node.node (← spanFrom t) .computed [expression]
    return .node (← spanFrom s) .superProperty [super, property]
  let arguments ← arguments g
  return .node (← spanFrom s) (.call 0) [super, .many arguments, .absent]

def memberProperty (g : Grammar) : Parser Node := do
  let l ← next
  match l.token with
  | .mark "." =>
    let m ← next
    match m.token with
    | .word name => return .leaf m.span (.propertyName name)
    | .privateName text => return .leaf m.span (.privateName ((text.drop 1).toString))
    | _ => fail
  | .mark "[" =>
    let expression ← enclosed (g .expression)
    expectMark "]"
    return .node (← spanFrom l.span.start) .computed [expression]
  | _ => fail

/-- The callee of `new`: names and properties, but no call. -/
def newCallee (g : Grammar) (primary : Parser Node) : Parser Node := do
  let s ← start
  let first ← primary
  extended (fun object => do
    if (← isMark ".") || (← isMark "[") then
      let property ← memberProperty g
      return some (.node (← spanFrom s) .member [object, property])
    else return none) first

def newExpression (g : Grammar) (primary : Parser Node) : Parser Node := do
  let s ← start
  expectWord "new"
  if ← eatMark "." then
    expectWord "target"
    return .leaf (← spanFrom s) (.metaProperty .newTarget)
  let callee ← newCallee g primary
  let typed : Parser (Node × Node) := do
    let types ← Types.typeArguments g
    return (types, .many (← arguments g))
  let (types, arguments) ←
    if (← dialect).types && (← isMark "<") then typed
    else if ← isMark "(" then pure (Node.absent, Node.many (← arguments g))
    else pure (.absent, .absent)
  return .node (← spanFrom s) (.new 0) [callee, arguments, types]

def classExpression (g : Grammar) : Parser Node := do
  let s ← start
  let decorators ← Functions.decorators g
  Functions.classExpression g s decorators false

def word (g : Grammar) (l : Lexeme) (name : String) : Parser Node := do
  match name with
  | "this" =>
    takeLexeme l
    return .leaf l.span .this
  | "null" =>
    takeLexeme l
    return .leaf l.span .nullLiteral
  | "true" =>
    takeLexeme l
    return .leaf l.span (.boolean true)
  | "false" =>
    takeLexeme l
    return .leaf l.span (.boolean false)
  | "super" => superExpression g
  | "import" => importExpression g
  | "class" => classExpression g
  | "function" => Functions.functionExpression g
  | _ =>
    if ← Functions.isAsyncFunction then Functions.functionExpression g
    else return (← identifier).reference

/-- An expression that no operator takes apart. -/
def primaryUpTo (g : Grammar) : Nat → Parser Node
  | 0 => fail
  | fuel + 1 => do
    let l ← peek
    match l.token with
    | .word "new" => newExpression g (primaryUpTo g fuel)
    | .word name => word g l name
    | .string value raw =>
      takeLexeme l
      return .leaf l.span (.string value (some raw))
    | .number raw =>
      takeLexeme l
      return .leaf l.span (.number (numberValue raw) (some raw))
    | .bigint raw =>
      takeLexeme l
      return .leaf l.span (.bigint raw)
    | .privateName text =>
      takeLexeme l
      if ← isWord "in" then return .leaf l.span (.privateName ((text.drop 1).toString)) else fail
    | .mark "(" => parenthesized g
    | .mark "[" => array g
    | .mark "\x7b" => object g
    | .mark "`" => template g
    | .mark "/" | .mark "/=" => regex
    | .mark "<" => g .element
    | .mark "@" => classExpression g
    | _ => fail

def primary (g : Grammar) : Parser Node := sized fun n => primaryUpTo g (n + 1)

/-- An expression with what follows it so far, and whether it is part of an optional chain. -/
structure Chain where
  node : Node
  isOptional : Bool := false

/-- Adds a property or call to a chain. -/
def Chain.link (chain : Chain) (span : Span) (asked : Bool) (form : Form) (parts : List Node) :
    Chain :=
  if asked || chain.isOptional then
    ⟨.node span (.optionalChain asked) [.node span form (chain.node :: parts)],true⟩
  else ⟨.node span form (chain.node :: parts),false⟩

def optionalStep (g : Grammar) (s : Nat) (chain : Chain) : Parser Chain := do
  let l ← peek
  match l.token with
  | .mark "(" =>
    let arguments ← arguments g
    return chain.link (← spanFrom s) true (.call 0) [.many arguments, .absent]
  | .mark "[" =>
    let property ← memberProperty g
    return chain.link (← spanFrom s) true .member [property]
  | .privateName text =>
    takeLexeme l
    let property := Node.leaf l.span (.privateName ((text.drop 1).toString))
    return chain.link (← spanFrom s) true .member [property]
  | _ =>
    let property ← propertyName
    return chain.link (← spanFrom s) true .member [property]

def typedCall? (g : Grammar) (s : Nat) (chain : Chain) : Parser (Option Chain) := do
  unless (← dialect).types do return none
  optional do
    let types ← Types.typeArguments g
    let arguments ← arguments g
    return chain.link (← spanFrom s) false (.call 0) [.many arguments, types]

def chainStep (g : Grammar) (s : Nat) (chain : Chain) : Parser (Option Chain) := do
  let l ← peek
  match l.token with
  | .mark "." | .mark "[" =>
    let property ← memberProperty g
    return some (chain.link (← spanFrom s) false .member [property])
  | .mark "?." =>
    takeLexeme l
    return some (← optionalStep g s chain)
  | .mark "(" =>
    let arguments ← arguments g
    return some (chain.link (← spanFrom s) false (.call 0) [.many arguments, .absent])
  | .mark "`" =>
    let template ← template g
    return some ⟨.node (← spanFrom s) (.taggedTemplate 0) [chain.node, .absent, template],false⟩
  | .mark "<" => typedCall? g s chain
  | .mark "!" =>
    if (← dialect).types && ! l.newLine then
      takeLexeme l
      return some { chain with node := .node (← spanFrom s) .nonNull [chain.node] }
    else return none
  | _ => return none

/-- An expression with all the properties and calls that follow it. -/
def lhs (g : Grammar) : Parser Node := do
  let s ← start
  let first ← primary g
  let chain ← extended (chainStep g s) ⟨first,false⟩
  return chain.node

def postfixed (g : Grammar) : Parser Node := do
  let s ← start
  let operand ← g .lhs
  let l ← peek
  match l.token with
  | .mark "++" | .mark "--" =>
    if l.newLine then return operand
    takeLexeme l
    let operator := if l.token == .mark "++" then "++" else "--"
    return .node (← spanFrom s) (.update operator false) [operand]
  | _ => return operand

def unaryWords : List String := ["delete", "void", "typeof"]

def unaryMarks : List String := ["+", "-", "~", "!"]

/-- `<type>expression`, which sources with markup do not have. -/
def typeAssertion (g : Grammar) (s : Nat) : Parser Node := do
  expectMark "<"
  if ← eatWord "const" then
    expectAngle
    let operand ← g .unary
    return .node (← spanFrom s) .constAssertion [operand]
  let type ← g .type
  expectAngle
  let operand ← g .unary
  return .node (← spanFrom s) .typeAssertion [operand, type]

def unary (g : Grammar) : Parser Node := do
  let ctx ← context
  let l ← peek
  let s := l.span.start
  let applied (form : Form) : Parser Node := do
    takeLexeme l
    let operand ← g .unary
    return .node (← spanFrom s) form [operand]
  match l.token with
  | .mark "++" => applied (.update "++" true)
  | .mark "--" => applied (.update "--" true)
  | .mark "<" =>
    if ctx.dialect.types && ! ctx.dialect.markup then typeAssertion g s else postfixed g
  | .mark m => if unaryMarks.contains m then applied (.unary m) else postfixed g
  | .word "await" => if ctx.awaits then applied .await else postfixed g
  | .word w => if unaryWords.contains w then applied (.unary w) else postfixed g
  | _ => postfixed g

/-- How tightly each operator between two operands binds. -/
def levels : List (String × Nat) :=
  [("??", 1), ("||", 1), ("&&", 2), ("|", 3), ("^", 4), ("&", 5), ("==", 6), ("!=", 6), ("===", 6),
    ("!==", 6), ("<", 7), (">", 7), ("<=", 7), (">=", 7), ("instanceof", 7), ("in", 7), ("<<", 8),
    (">>", 8), (">>>", 8), ("+", 9), ("-", 9), ("*", 10), ("/", 10), ("%", 10), ("**", 11)]

def operator? (ctx : Context) (token : Token) : Option (String × Nat) :=
  match token with
  | .mark m => (levels.lookup m).map (m, ·)
  | .word "in" => if ctx.noIn then none else some ("in", 7)
  | .word "instanceof" => some ("instanceof", 7)
  | _ => none

def typedStep (g : Grammar) (s : Nat) (l : Lexeme) (left : Node) : Parser (Option Node) := do
  unless (← dialect).types && ! l.newLine do return none
  match l.token with
  | .word "as" =>
    takeLexeme l
    if ← eatWord "const" then return some (.node (← spanFrom s) .constAssertion [left])
    let type ← g .type
    return some (.node (← spanFrom s) .asExpression [left, type])
  | .word "satisfies" =>
    takeLexeme l
    let type ← g .type
    return some (.node (← spanFrom s) .satisfiesExpression [left, type])
  | _ => return none

/-- A power of an operation on one operand must be put in parentheses. -/
def isUnaryOperation : Node → Bool
  | .node _ (.unary _) _ | .node _ .await _ => true
  | _ => false

/-- Operands joined by operators that bind at least as tightly as a level. -/
def binary (g : Grammar) (level : Nat) : Parser Node := do
  let s ← start
  let first ← g .unary
  extended (fun left => do
    let ctx ← context
    let l ← peek
    match operator? ctx l.token with
    | some (operator, own) =>
      if own < level then return none
      if operator == "**" && isUnaryOperation left then fail
      takeLexeme l
      let right ← g (.binary (if operator == "**" then own else own + 1))
      return some (.node (← spanFrom s) (.binary operator) [left, right])
    | none => if level ≤ 7 then typedStep g s l left else return none) first

/-- A choice between two expressions. The first is tried without arrow functions that state their
result, whose colon could be that of the choice. -/
def conditional (g : Grammar) : Parser Node := do
  let s ← start
  let test ← g (.binary 0)
  unless ← eatMark "?" do return test
  let choice (returnTypes : Bool) : Parser (Node × Node) := do
    let consequent ← within ({ · with noIn := false, returnTypes }) (g .assignment)
    expectMark ":"
    return (consequent, ← g .assignment)
  let (consequent, alternate) ←
    if (← dialect).types then choice true <|> choice false else choice true
  return .node (← spanFrom s) .conditional [test, consequent, alternate]

def assignmentMarks : List String :=
  ["=", "+=", "-=", "*=", "/=", "%=", "**=", "<<=", ">>=", ">>>=", "&=", "|=", "^=", "&&=", "||=",
    "??="]

def yieldExpression (g : Grammar) : Parser Node := do
  let s ← start
  expectWord "yield"
  let l ← peek
  if l.token == .mark "*" && ! l.newLine then
    takeLexeme l
    let argument ← g .assignment
    return .node (← spanFrom s) (.yield true) [argument]
  let ends := match l.token with
    | .mark m => [")", "]", "\x7d", ",", ";", ":"].contains m
    | .word "in" | .word "of" | .stop => true
    | _ => false
  let argument ← if l.newLine || ends then pure .absent else g .assignment
  return .node (← spanFrom s) (.yield false) [argument]

def assigned (g : Grammar) (s : Nat) : Parser Node := do
  let left ← conditional g
  let l ← peek
  match l.token with
  | .mark m =>
    if assignmentMarks.contains m then
      match left.target? (m == "=") with
      | none => fail
      | some target =>
        takeLexeme l
        let right ← g .assignment
        return .node (← spanFrom s) (.assignment m) [target, right]
    else return left
  | _ => return left

def assignment (g : Grammar) : Parser Node := do
  let ctx ← context
  let l ← peek
  let s := l.span.start
  match l.token with
  | .word "yield" => if ctx.yields then yieldExpression g else Functions.arrow g <|> assigned g s
  | .word _ | .mark "(" => Functions.arrow g <|> assigned g s
  | .mark "<" => if ctx.dialect.types then Functions.arrow g <|> assigned g s else assigned g s
  | _ => assigned g s

def expression (g : Grammar) : Parser Node := do
  let s ← start
  let parts ← commaSeparated (g .assignment)
  match parts with
  | [single] => return single
  | _ => return .node (← spanFrom s) .sequence [.many parts]

end Expressions
end AsyncBody.Source
