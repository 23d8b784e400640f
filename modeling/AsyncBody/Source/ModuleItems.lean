import AsyncBody.Source.Statements

/-!
The grammar of imports and exports.
-/
namespace AsyncBody.Source

open Source.Parser

namespace ModuleItems

def attributes (g : Grammar) : Parser Node := do
  let l ← peek
  let isAttributes := l.token == .word "with" || (l.token == .word "assert" && ! l.newLine)
  if isAttributes then
    takeLexeme l
    Expressions.object g
  else return .absent

def fromSource : Parser StringLiteral := do
  expectWord "from"
  stringLiteral

/-- Whether another name follows, so that the word before it can be a modifier. -/
def isNameNext : Parser Bool := do
  match (← peek).token with
  | .word _ | .string .. => return true
  | _ => return false

/-- The two names of a specifier, and whether it is only a type. The word `type` is a modifier if a
name follows it, but `type as name` renames something called `type`. -/
def specifierNames : Parser (ExportName × Option ExportName × Bool) := do
  let isType ← if (← dialect).types then isWord "type" else pure false
  let first ← exportName
  let renamed (name : ExportName) (typeOnly : Bool) :
      Parser (ExportName × Option ExportName × Bool) := do
    if ← eatWord "as" then return (name, some (← exportName), typeOnly)
    else return (name, none, typeOnly)
  if ! isType || ! (← isNameNext) then return ← renamed first false
  let second ← exportName
  if second.text != "as" then return ← renamed second true
  if ! (← isNameNext) then return (second, none, true)
  let third ← exportName
  if third.text == "as" && (← isNameNext) then return (second, some (← exportName), true)
  else return (first, some third, false)

def importSpecifier : Parser ImportSpecifier := do
  let ctx ← context
  let s ← start
  let (name, renamed, typeOnly) ← specifierNames
  let span ← spanFrom s
  match name, renamed with
  | name, some (.ident bound) =>
    unless isIdentifier ctx bound.name do fail
    return .named span bound (some name) typeOnly
  | .ident bound, none =>
    unless isIdentifier ctx bound.name do fail
    return .named span bound none typeOnly
  | _, _ => fail

def exportSpecifier : Parser ExportSpecifier := do
  let s ← start
  let (name, renamed, typeOnly) ← specifierNames
  return .named (← spanFrom s) name renamed typeOnly

def importSpecifiers : Parser (List ImportSpecifier) := do
  expectMark "\x7b"
  separated importSpecifier "\x7d"

def exportSpecifiers : Parser (List ExportSpecifier) := do
  expectMark "\x7b"
  separated exportSpecifier "\x7d"

def wholeImport : Parser ImportSpecifier := do
  let s ← start
  expectMark "*"
  expectWord "as"
  let bound ← identifier
  return .whole (← spanFrom s) bound

def listOrWhole : Parser (List ImportSpecifier) := do
  if ← isMark "*" then return [← wholeImport] else importSpecifiers

/-- What an import with a source binds: a default, a list or the whole, or a default and one of
these. -/
def bindings : Parser (List ImportSpecifier) := do
  if ← isIdentifierNext then
    let bound ← identifier
    let default := ImportSpecifier.default bound.span bound
    if ← eatMark "," then return default :: (← listOrWhole) else return [default]
  else listOrWhole

/-- What `import name =` refers to: a module, or a dotted name. -/
def reference : Parser Node := do
  let s ← start
  let second ← peekSecond
  if (← isWord "require") && second.token == .mark "(" then
    expectWord "require"
    expectMark "("
    let source ← stringLiteral
    expectMark ")"
    return .leaf (← spanFrom s) (.externalModule source)
  else Types.entityName

def importEquals (s : Nat) (isExport typeOnly : Bool) : Parser Node := do
  let name ← identifier
  expectMark "="
  let reference ← reference
  semicolon
  return .node (← spanFrom s) (.importEquals isExport typeOnly name) [reference]

def peekThird : Parser Token := ahead do
  let _ ← next
  return (← peekSecond).token

/-- Takes the modifier `type` of an import, unless it is the name of a default import. -/
def typeModifier : Parser Bool := do
  unless (← dialect).types && (← isWord "type") do return false
  let isModifier ← match (← peekSecond).token with
    | .mark m => pure (m == "\x7b" || m == "*")
    | .word "from" => do
      let third ← peekThird
      pure (third == .word "from" || third == .mark "=")
    | .word _ => pure true
    | _ => pure false
  if isModifier then eatWord "type" else return false

/-- Takes the phase of an import, unless it is the name of a default import. -/
def phase : Parser ImportPhase := do
  let second := (← peekSecond).token
  if (← isWord "defer") && second == .mark "*" then
    expectWord "defer"
    return .defer
  match second with
  | .word w =>
    let isPhase ← if ← isWord "source" then
        if w == "from" then pure ((← peekThird) == .word "from") else pure true
      else pure false
    if isPhase then
      expectWord "source"
      return .source
    else return .evaluation
  | _ => return .evaluation

def importFrom (g : Grammar) (s : Nat) (typeOnly : Bool) : Parser Node := do
  let phase ← if typeOnly then pure .evaluation else phase
  let specifiers ← bindings
  let source ← fromSource
  let attributes ← attributes g
  semicolon
  return .node (← spanFrom s) (.importDeclaration specifiers source typeOnly phase) [attributes]

def importOnly (g : Grammar) (s : Nat) : Parser Node := do
  let source ← stringLiteral
  let attributes ← attributes g
  semicolon
  return .node (← spanFrom s) (.importDeclaration [] source false .evaluation) [attributes]

def importDeclaration (g : Grammar) : Parser Node := do
  let s ← start
  expectWord "import"
  match (← peek).token with
  | .string .. => importOnly g s
  | _ =>
    let typeOnly ← typeModifier
    let second := (← peekSecond).token
    if (← dialect).types && second == .mark "=" then importEquals s false typeOnly
    else importFrom g s typeOnly

def exportList (g : Grammar) (s : Nat) (specifiers : List ExportSpecifier) (typeOnly : Bool) :
    Parser Node := do
  let more ← exportSpecifiers
  let specifiers := specifiers ++ more
  if ← isWord "from" then
    let source ← fromSource
    let attributes ← attributes g
    semicolon
    return .node (← spanFrom s) (.exportNamed specifiers (some source) typeOnly) [attributes]
  else
    semicolon
    return .node (← spanFrom s) (.exportNamed specifiers none typeOnly) [.absent]

/-- `export * from source`, or the same under a name, from the star on. -/
def exportStar (g : Grammar) (s : Nat) (specifiers : List ExportSpecifier) (typeOnly : Bool) :
    Parser Node := do
  let t ← start
  expectMark "*"
  if ← eatWord "as" then
    let name ← exportName
    let whole := ExportSpecifier.whole (← spanFrom t) name
    let source ← fromSource
    let attributes ← attributes g
    semicolon
    return .node (← spanFrom s) (.exportNamed (specifiers ++ [whole]) (some source) typeOnly)
      [attributes]
  else
    unless specifiers.isEmpty do fail
    let source ← fromSource
    let attributes ← attributes g
    semicolon
    return .node (← spanFrom s) (.exportAll source typeOnly) [attributes]

/-- `export name from source`, with a list or the whole beside it. -/
def exportDefaultFrom (g : Grammar) (s : Nat) : Parser Node := do
  let name ← anyWord
  let specifier := ExportSpecifier.default name
  if ← eatMark "," then
    if ← isMark "*" then exportStar g s [specifier] false
    else
      let declaration ← exportList g s [specifier] false
      match declaration with
      | .node _ (.exportNamed _ (some _) _) _ => return declaration
      | _ => fail
  else
    let source ← fromSource
    let attributes ← attributes g
    semicolon
    return .node (← spanFrom s) (.exportNamed [specifier] (some source) false) [attributes]

def exportDefaultExpression (g : Grammar) (s : Nat) : Parser Node := do
  let expression ← g .assignment
  semicolon
  return .node (← spanFrom s) .exportDefaultExpression [expression]

def exportDefault (g : Grammar) (s : Nat) : Parser Node := do
  expectWord "default"
  let t ← start
  let l ← peek
  let second ← peekSecond
  let ctx ← context
  let declared (declaration : Node) : Parser Node := do
    return .node (← spanFrom s) .exportDefaultDeclaration [declaration]
  match l.token with
  | .mark "@" =>
    let decorators ← Functions.decorators g
    let isAbstract ← if ctx.dialect.types then eatWord "abstract" else pure false
    declared (← Functions.classExpression g t decorators isAbstract)
  | .word "class" => declared (← Functions.classExpression g t [] false)
  | .word "abstract" =>
    if ctx.dialect.types && second.token == .word "class" && ! second.newLine then
      takeLexeme l
      declared (← Functions.classExpression g t [] true)
    else exportDefaultExpression g s
  | .word "interface" =>
    if ctx.dialect.types && Statements.isNamed second then
      declared (← Statements.interfaceDeclaration g false t)
    else exportDefaultExpression g s
  | _ =>
    if ← Functions.isFunction then declared (← Functions.functionDefault g)
    else exportDefaultExpression g s

/-- Whether a default export taken from another module follows: a name, then `from` or a comma. -/
def isDefaultFrom : Parser Bool := do
  unless (← dialect).defaultFrom do return false
  match (← peek).token with
  | .word w =>
    let second := (← peekSecond).token
    if w == "default" then
      match second, ← peekThird with
      | .word "from", .string .. => return true
      | .mark ",", _ => return true
      | _, _ => return false
    else return isIdentifier (← context) w && (second == .word "from" || second == .mark ",")
  | _ => return false

/-- The forms of `export` that only sources with types have, if one follows. -/
def typedExport? (g : Grammar) (s : Nat) : Parser (Option Node) := do
  unless (← dialect).types do return none
  let l ← peek
  let second := (← peekSecond).token
  match l.token with
  | .mark "=" =>
    takeLexeme l
    let expression ← g .expression
    semicolon
    return some (.node (← spanFrom s) .exportAssignment [expression])
  | .word "as" =>
    takeLexeme l
    expectWord "namespace"
    let name ← identifier
    semicolon
    return some (.leaf (← spanFrom s) (.exportAsNamespace name))
  | .word "import" =>
    takeLexeme l
    let isType ←
      if (← isWord "type") && (← peekSecond).token != .mark "=" then eatWord "type" else pure false
    return some (← importEquals s true isType)
  | .word "type" =>
    if second == .mark "\x7b" then
      takeLexeme l
      return some (← exportList g s [] true)
    else if second == .mark "*" then
      takeLexeme l
      return some (← exportStar g s [] true)
    else return none
  | _ => return none

def exportDeclaration (g : Grammar) : Parser Node := do
  let s ← start
  expectWord "export"
  match ← typedExport? g s with
  | some declaration => return declaration
  | none =>
    let l ← peek
    if ← isDefaultFrom then return ← exportDefaultFrom g s
    match l.token with
    | .mark "*" => exportStar g s [] false
    | .mark "\x7b" => exportList g s [] false
    | .word "default" => exportDefault g s
    | _ =>
      match ← Statements.anyDeclaration? g with
      | some declaration => return .node (← spanFrom s) .exportDeclaration [declaration]
      | none => fail

/-- Decorators may stand in front of `export`; they belong to the class after it. -/
def decoratedExport (g : Grammar) : Parser Node := do
  let s ← start
  let decorators ← Functions.decorators g
  if decorators.isEmpty then fail
  expectWord "export"
  let isDefault ← eatWord "default"
  let isAbstract ← eatWord "abstract"
  if isDefault then
    let declaration ← Functions.classExpression g s decorators isAbstract
    return .node (← spanFrom s) .exportDefaultDeclaration [declaration]
  else
    let declaration ← Functions.classDeclaration g s decorators false isAbstract
    return .node (← spanFrom s) .exportDeclaration [declaration]

/-- `import` starts a declaration unless it is called or a property is read from it. -/
def isImportDeclaration : Parser Bool := do
  unless ← isWord "import" do return false
  match (← peekSecond).token with
  | .mark m => return m != "(" && m != "."
  | _ => return true

def moduleItem (g : Grammar) : Parser Node := do
  if ← isImportDeclaration then importDeclaration g
  else if ← isWord "export" then exportDeclaration g
  else if ← isMark "@" then decoratedExport g <|> g .statement
  else g .statement

end ModuleItems
end AsyncBody.Source
