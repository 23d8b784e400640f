import AsyncBody.Source.Expressions

/-!
The grammar of statements and declarations.
-/
namespace AsyncBody.Source

open Source.Parser

namespace Statements

def statementsToBrace (g : Grammar) : Parser (List Node) := repeated do
  if ← eatMark "\x7d" then return none else return some (← g .statement)

def block (g : Grammar) : Parser Node := do
  let s ← start
  expectMark "\x7b"
  let statements ← statementsToBrace g
  return .node (← spanFrom s) (.block 0) [.many statements]

def declarator (g : Grammar) : Parser Node := do
  let s ← start
  let pattern ← g .pattern
  let definite ← if (← dialect).types then eatMark "!" else pure false
  let pattern ← Patterns.ascribed g false pattern
  let value ← if ← eatMark "=" then g .assignment else pure .absent
  return .node (← spanFrom s) (.declarator definite) [pattern, value]

def variableKind? (token : Token) : Option VariableKind :=
  match token with
  | .word "var" => some .var
  | .word "let" => some .lexical
  | .word "const" => some .const
  | _ => none

def declarators (g : Grammar) (kind : VariableKind) (declare : Bool) (s : Nat) : Parser Node := do
  let _ ← next
  let declarators ← commaSeparated (declarator g)
  return .node (← spanFrom s) (.variableDeclaration 0 kind declare) [.many declarators]

def variableDeclaration (g : Grammar) (kind : VariableKind) (declare : Bool) (s : Nat) :
    Parser Node := do
  let declaration ← declarators g kind declare s
  semicolon
  match declaration with
  | .node _ form parts => return .node (← spanFrom s) form parts
  | other => return other

/-- Whether `let` declares variables here, and is not itself a name. -/
def isLexical : Parser Bool := do
  unless ← isWord "let" do return false
  let ctx ← context
  match (← peekSecond).token with
  | .mark m => return m == "[" || m == "\x7b"
  | .word w => return isIdentifier ctx w
  | _ => return false

def declaredKind? : Parser (Option VariableKind) := do
  match variableKind? (← peek).token with
  | some .lexical => if ← isLexical then return some .lexical else return none
  | some .const =>
    if (← dialect).types && (← peekSecond).token == .word "enum" then return none
    else return some .const
  | other => return other

/-- Whether `using` and the name of a resource come next. -/
def isUsing : Parser Bool := do
  let ctx ← context
  let second ← peekSecond
  unless (← isWord "using") && ! second.newLine do return false
  match second.token with
  | .word w => return isIdentifier ctx w && w != "of"
  | _ => return false

def isResource : Parser Bool := do
  unless (← dialect).types do return false
  if ← isWord "await" then
    ahead do
      let _ ← next
      let l ← peek
      if l.newLine then return false else isUsing
  else isUsing

def resources (g : Grammar) (s : Nat) : Parser Node := do
  let isAwait ← eatWord "await"
  expectWord "using"
  let declarators ← commaSeparated (declarator g)
  return .node (← spanFrom s) (.usingDeclaration isAwait) [.many declarators]

def resourceDeclaration (g : Grammar) (s : Nat) : Parser Node := do
  let declaration ← resources g s
  semicolon
  match declaration with
  | .node _ form parts => return .node (← spanFrom s) form parts
  | other => return other

def condition (g : Grammar) : Parser Node := do
  expectMark "("
  let test ← g .expression
  expectMark ")"
  return test

def ifStatement (g : Grammar) (s : Nat) : Parser Node := do
  expectWord "if"
  let test ← condition g
  let consequent ← g .statement
  let alternate ← if ← eatWord "else" then g .statement else pure .absent
  return .node (← spanFrom s) .ifStatement [test, consequent, alternate]

def whileStatement (g : Grammar) (s : Nat) : Parser Node := do
  expectWord "while"
  let test ← condition g
  let body ← g .statement
  return .node (← spanFrom s) .whileStatement [test, body]

/-- The semicolon after `do body while (test)` can always be left out. -/
def doWhileStatement (g : Grammar) (s : Nat) : Parser Node := do
  expectWord "do"
  let body ← g .statement
  expectWord "while"
  let test ← condition g
  let _ ← eatMark ";"
  return .node (← spanFrom s) .doWhileStatement [test, body]

def overStatement (g : Grammar) (s : Nat) (isAwait : Bool) (left : Node) : Parser Node := do
  if ← eatWord "of" then
    let right ← g .assignment
    expectMark ")"
    let body ← g .statement
    return .node (← spanFrom s) (.forOfStatement isAwait) [left, right, body]
  else
    if isAwait then fail
    expectWord "in"
    let right ← g .expression
    expectMark ")"
    let body ← g .statement
    return .node (← spanFrom s) .forInStatement [left, right, body]

def countingStatement (g : Grammar) (s : Nat) (init : Node) : Parser Node := do
  expectMark ";"
  let test ← if ← isMark ";" then pure .absent else g .expression
  expectMark ";"
  let update ← if ← isMark ")" then pure .absent else g .expression
  expectMark ")"
  let body ← g .statement
  return .node (← spanFrom s) .forStatement [init, test, update, body]

def isOver : Parser Bool := return (← isWord "of") || (← isWord "in")

def forStatement (g : Grammar) (s : Nat) : Parser Node := do
  expectWord "for"
  let isAwait ← eatWord "await"
  expectMark "("
  let t ← start
  if ← isResource then
    let left ← within ({ · with noIn := true }) (resources g t)
    if ← isOver then return ← overStatement g s isAwait left
    return ← countingStatement g s left
  match ← declaredKind? with
  | some kind =>
    let left ← within ({ · with noIn := true }) (declarators g kind false t)
    if ← isOver then overStatement g s isAwait left else countingStatement g s left
  | none =>
    if ← isMark ";" then return ← countingStatement g s .absent
    let overValues : Parser Node := do
      match (← g .lhs).target? true with
      | some left =>
        unless ← isOver do fail
        overStatement g s isAwait left
      | none => fail
    let counting : Parser Node := do
      let init ← within ({ · with noIn := true }) (g .expression)
      countingStatement g s init
    overValues <|> counting

def switchCase (g : Grammar) : Parser Node := do
  let s ← start
  let test ←
    if ← eatWord "default" then pure .absent
    else do
      expectWord "case"
      g .expression
  expectMark ":"
  let consequent ← repeated do
    if (← isWord "case") || (← isWord "default") || (← isMark "\x7d") then return none
    else return some (← g .statement)
  return .node (← spanFrom s) .switchCase [test, .many consequent]

def switchStatement (g : Grammar) (s : Nat) : Parser Node := do
  expectWord "switch"
  let discriminant ← condition g
  expectMark "\x7b"
  let cases ← repeated do
    if ← eatMark "\x7d" then return none else return some (← switchCase g)
  return .node (← spanFrom s) .switchStatement [discriminant, .many cases]

def catchClause (g : Grammar) : Parser Node := do
  let s ← start
  expectWord "catch"
  let param ←
    if ← eatMark "(" then
      let param ← Patterns.ascribed g false (← g .pattern)
      expectMark ")"
      pure param
    else pure .absent
  let body ← block g
  return .node (← spanFrom s) .catchClause [param, body]

def tryStatement (g : Grammar) (s : Nat) : Parser Node := do
  expectWord "try"
  let body ← block g
  let handler ← if ← isWord "catch" then catchClause g else pure .absent
  let finalizer ← if ← eatWord "finally" then block g else pure .absent
  if ! handler.isPresent && ! finalizer.isPresent then fail
  return .node (← spanFrom s) .tryStatement [body, handler, finalizer]

/-- `return`, `break` and `continue` end at the end of their line. -/
def isStatementEnd : Parser Bool := do
  let l ← peek
  return l.newLine || l.token == .mark ";" || l.token == .mark "\x7d" || l.token == .stop

def returnStatement (g : Grammar) (s : Nat) : Parser Node := do
  expectWord "return"
  let argument ← if ← isStatementEnd then pure .absent else g .expression
  semicolon
  return .node (← spanFrom s) .returnStatement [argument]

def throwStatement (g : Grammar) (s : Nat) : Parser Node := do
  expectWord "throw"
  if (← peek).newLine then fail
  let argument ← g .expression
  semicolon
  return .node (← spanFrom s) .throwStatement [argument]

def jump (s : Nat) (form : Form) : Parser Node := do
  let _ ← next
  let label ← if ← isStatementEnd then pure .absent else pure (← identifier).reference
  semicolon
  return .node (← spanFrom s) form [label]

def withStatement (g : Grammar) (s : Nat) : Parser Node := do
  expectWord "with"
  let object ← condition g
  let body ← g .statement
  return .node (← spanFrom s) .withStatement [object, body]

-- declarations of types

def enumMember (g : Grammar) : Parser Node := do
  let s ← start
  let l ← next
  let id ← match l.token with
    | .word name => pure (Ident.named name l.span).reference
    | .string value raw => pure (StringLiteral.mk l.span value (some raw)).toNode
    | _ => fail
  let init ← if ← eatMark "=" then g .assignment else pure .absent
  return .node (← spanFrom s) .enumMember [id, init]

def enumDeclaration (g : Grammar) (declare : Bool) (s : Nat) : Parser Node := do
  let isConst ← eatWord "const"
  expectWord "enum"
  let name ← identifier
  expectMark "\x7b"
  let members ← separated (enumMember g) "\x7d"
  return .node (← spanFrom s) (.enumDeclaration declare isConst name) [.many members]

def interfaceDeclaration (g : Grammar) (declare : Bool) (s : Nat) : Parser Node := do
  expectWord "interface"
  let name ← identifier
  let typeParameters ← Types.typeParameters? g
  let extended ←
    if ← eatWord "extends" then commaSeparated (Functions.heritage g) else pure []
  let t ← start
  let members ← Types.members g
  let body := Node.node (← spanFrom t) .interfaceBody [members]
  return .node (← spanFrom s) (.interfaceDeclaration name declare)
    [typeParameters, .many extended, body]

def typeAlias (g : Grammar) (declare : Bool) (s : Nat) : Parser Node := do
  expectWord "type"
  let name ← identifier
  let typeParameters ← Types.typeParameters? g
  expectMark "="
  let type ← g .type
  semicolon
  return .node (← spanFrom s) (.typeAlias declare name) [typeParameters, type]

def moduleBlock (g : Grammar) : Parser Node := do
  let s ← start
  expectMark "\x7b"
  let items ← repeated do
    if ← eatMark "\x7d" then return none else return some (← g .moduleItem)
  return .node (← spanFrom s) .moduleBlock [.many items]

/-- The body of `namespace A.B.C`: a namespace for each further name. -/
def namespaceBody (g : Grammar) : Nat → Parser Node
  | 0 => fail
  | fuel + 1 => do
    if ← eatMark "." then
      let s ← start
      let name ← identifier
      let body ← namespaceBody g fuel
      return .node (← spanFrom s) (.namespaceDeclaration false false name) [body]
    else moduleBlock g

def namespaceDeclaration (g : Grammar) (declare : Bool) (s : Nat) : Parser Node := do
  let l ← next
  let isNamespace := l.token == .word "namespace"
  match (← peek).token with
  | .string .. =>
    if isNamespace then fail
    let name ← stringLiteral
    let body ← if ← isMark "\x7b" then moduleBlock g else do
      semicolon
      pure .absent
    return .node (← spanFrom s) (.moduleDeclaration declare false false (.string name)) [body]
  | _ =>
    let name ← identifier
    let body ← sized fun n => namespaceBody g (n + 1)
    return .node (← spanFrom s) (.moduleDeclaration declare false isNamespace (.ident name)) [body]

def globalDeclaration (g : Grammar) (declare : Bool) (s : Nat) : Parser Node := do
  let name ← identifier
  let body ← moduleBlock g
  return .node (← spanFrom s) (.moduleDeclaration declare true false (.ident name)) [body]

/-- A word that starts a declaration only if its name follows on the same line. -/
def isNamed (second : Lexeme) : Bool :=
  ! second.newLine && match second.token with
    | .word _ => true
    | _ => false

/-- A declaration that only sources with types have, if one starts here. -/
def typeDeclaration? (g : Grammar) (declare : Bool) (s : Nat) : Parser (Option Node) := do
  unless (← dialect).types do return none
  let l ← peek
  let second ← peekSecond
  match l.token with
  | .word "interface" =>
    if isNamed second then return some (← interfaceDeclaration g declare s) else return none
  | .word "type" =>
    if isNamed second then optional (typeAlias g declare s) else return none
  | .word "enum" => return some (← enumDeclaration g declare s)
  | .word "const" =>
    if second.token == .word "enum" then return some (← enumDeclaration g declare s)
    else return none
  | .word "namespace" =>
    if isNamed second then return some (← namespaceDeclaration g declare s) else return none
  | .word "module" =>
    let isString := match second.token with
      | .string .. => ! second.newLine
      | _ => false
    if isNamed second || isString then return some (← namespaceDeclaration g declare s)
    else return none
  | .word "global" =>
    if second.token == .mark "\x7b" then return some (← globalDeclaration g declare s)
    else return none
  | .word "abstract" =>
    if second.token == .word "class" && ! second.newLine then
      takeLexeme l
      return some (← Functions.classDeclaration g s [] declare true)
    else return none
  | _ => return none

def declaration? (g : Grammar) (declare : Bool) (s : Nat) : Parser (Option Node) := do
  let ctx ← context
  let l ← peek
  if l.token == .mark "@" then
    let decorators ← Functions.decorators g
    if decorators.isEmpty then return none
    let isAbstract ← if ctx.dialect.types then eatWord "abstract" else pure false
    return some (← Functions.classDeclaration g s decorators declare isAbstract)
  if l.token == .word "class" then
    return some (← Functions.classDeclaration g s [] declare false)
  if ← Functions.isFunction then return some (← Functions.functionDeclaration g declare)
  if ← isResource then return some (← resourceDeclaration g s)
  match ← declaredKind? with
  | some kind => return some (← variableDeclaration g kind declare s)
  | none => typeDeclaration? g declare s

def ambient? (g : Grammar) : Parser (Option Node) := do
  unless (← dialect).types && (← isWord "declare") do return none
  let second ← peekSecond
  unless isNamed second do return none
  optional do
    let s ← start
    expectWord "declare"
    match ← declaration? g true s with
    | some declaration => return declaration
    | none => fail

def anyDeclaration? (g : Grammar) : Parser (Option Node) := do
  match ← ambient? g with
  | some declaration => return some declaration
  | none => declaration? g false (← start)

def expressionStatement (g : Grammar) (s : Nat) : Parser Node := do
  let expression ← g .expression
  semicolon
  return .node (← spanFrom s) .expressionStatement [expression]

def labeled (g : Grammar) (s : Nat) : Parser Node := do
  let label ← identifier
  expectMark ":"
  let body ← g .statement
  return .node (← spanFrom s) .labeled [label.reference, body]

def keywordStatement? (g : Grammar) (s : Nat) (word : String) : Option (Parser Node) :=
  match word with
  | "if" => some (ifStatement g s)
  | "while" => some (whileStatement g s)
  | "do" => some (doWhileStatement g s)
  | "for" => some (forStatement g s)
  | "switch" => some (switchStatement g s)
  | "try" => some (tryStatement g s)
  | "return" => some (returnStatement g s)
  | "throw" => some (throwStatement g s)
  | "break" => some (jump s .breakStatement)
  | "continue" => some (jump s .continueStatement)
  | "with" => some (withStatement g s)
  | "debugger" => some do
    let _ ← next
    semicolon
    return .leaf (← spanFrom s) .debugger
  | _ => none

def otherStatement (g : Grammar) (s : Nat) : Parser Node := do
  match ← anyDeclaration? g with
  | some declaration => return declaration
  | none =>
    let second ← peekSecond
    if (← isIdentifierNext) && second.token == .mark ":" then labeled g s
    else expressionStatement g s

def statement (g : Grammar) : Parser Node := do
  let l ← peek
  let s := l.span.start
  match l.token with
  | .mark "\x7b" => block g
  | .mark ";" =>
    takeLexeme l
    return .leaf l.span .empty
  | .word w =>
    match keywordStatement? g s w with
    | some rule => rule
    | none => otherStatement g s
  | .mark "@" => otherStatement g s
  | _ => expressionStatement g s

end Statements
end AsyncBody.Source
