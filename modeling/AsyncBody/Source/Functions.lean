import AsyncBody.Source.Patterns

/-!
The grammar of functions and classes.
-/
namespace AsyncBody.Source

open Source.Parser

namespace Functions

def decorator (g : Grammar) : Parser Node := do
  let s ← start
  expectMark "@"
  let expression ← g .lhs
  return .node (← spanFrom s) .decorator [expression]

def decorators (g : Grammar) : Parser (List Node) := repeated do
  if (← dialect).decorators && (← isMark "@") then return some (← decorator g) else return none

def parameter (g : Grammar) : Parser Node := do
  let s ← start
  let decorators ← decorators g
  let pattern ← Patterns.parameter g
  return .node (← spanFrom s) .parameter [.many decorators, pattern]

/-- The surroundings of the parameters and the body of a function. -/
def inside (isAsync isGenerator : Bool) (ctx : Context) : Context :=
  { ctx with awaits := isAsync, yields := isGenerator, noIn := false, returnTypes := true }

/-- The body of a function; only where types are allowed may it be left out. -/
def body? (g : Grammar) : Parser Node := do
  if ← isMark "\x7b" then g .block
  else
    typesOnly
    semicolon
    return .absent

def resultType? (g : Grammar) : Parser Node := do
  if (← dialect).types && (← isMark ":") then Types.resultAfter g ":" else return .absent

def function (g : Grammar) (s : Nat) (isAsync isGenerator : Bool) : Parser Node := do
  let typeParameters ← Types.typeParameters? g
  within (inside isAsync isGenerator) do
    expectMark "("
    let params ← separated (parameter g) ")"
    let result ← resultType? g
    let body ← body? g
    return .node (← spanFrom s) (.function 0 isGenerator isAsync)
      [.many params, .many [], body, typeParameters, result]

/-- `async function`, with no line end between. -/
def isAsyncFunction : Parser Bool := do
  let second ← peekSecond
  return (← isWord "async") && second.token == .word "function" && ! second.newLine

def isFunction : Parser Bool := do
  return (← isWord "function") || (← isAsyncFunction)

def head : Parser (Nat × Bool × Bool) := do
  let s ← start
  let isAsync ← eatWord "async"
  expectWord "function"
  let isGenerator ← eatMark "*"
  return (s, isAsync, isGenerator)

/-- The name of a declaration is bound outside of the function. -/
def functionDeclaration (g : Grammar) (declare : Bool) : Parser Node := do
  let (s, isAsync, isGenerator) ← head
  let name ← identifier
  let function ← function g s isAsync isGenerator
  return .node .nowhere (.functionDeclaration name declare) [function]

def optionalName (isAsync isGenerator : Bool) : Parser (Option Ident) := do
  let isNamed ← within (inside isAsync isGenerator) isIdentifierNext
  if isNamed then return some (← identifier) else return none

def functionExpression (g : Grammar) : Parser Node := do
  let (s, isAsync, isGenerator) ← head
  let name ← optionalName isAsync isGenerator
  let function ← function g s isAsync isGenerator
  return .node .nowhere (.functionExpression name) [function]

/-- The default export of a function need not be named. -/
def functionDefault (g : Grammar) : Parser Node := do
  let (s, isAsync, isGenerator) ← head
  let name ← if ← isIdentifierNext then pure (some (← identifier)) else pure none
  let function ← function g s isAsync isGenerator
  return .node .nowhere (.functionExpression name) [function]

def arrowBody (g : Grammar) : Parser Node := do
  let l ← next
  if l.token != .mark "=>" || l.newLine then fail
  if ← isMark "\x7b" then within ({ · with noIn := false }) (g .block) else g .assignment

def arrowFrom (g : Grammar) (s : Nat) (isAsync : Bool) : Parser Node := do
  let typeParameters ← Types.typeParameters? g
  let ctx ← context
  within (fun c => { c with awaits := isAsync || ctx.awaits, yields := false }) do
    expectMark "("
    let params ← within ({ · with noIn := false, returnTypes := true })
      (separated (Patterns.parameter g) ")")
    let result ← if ctx.returnTypes then resultType? g else pure .absent
    let body ← arrowBody g
    return .node (← spanFrom s) (.arrow 0 isAsync false)
      [.many params, body, typeParameters, result]

def arrowOfName (g : Grammar) (s : Nat) (isAsync : Bool) : Parser Node := do
  let ctx ← context
  within (fun c => { c with awaits := isAsync || ctx.awaits, yields := false }) do
    let name ← identifier
    let body ← arrowBody g
    return .node (← spanFrom s) (.arrow 0 isAsync false)
      [.many [name.pattern], body, .absent, .absent]

def arrow (g : Grammar) : Parser Node := do
  let l ← peek
  let s := l.span.start
  let plain : Parser Node := do
    match l.token with
    | .mark "(" | .mark "<" => arrowFrom g s false
    | _ => arrowOfName g s false
  if l.token == .word "async" then
    let second ← peekSecond
    let async : Parser Node := do
      if second.newLine then fail
      takeLexeme l
      if (← isMark "(") || (← isMark "<") then arrowFrom g s true else arrowOfName g s true
    async <|> plain
  else plain

-- members of classes and object literals

/-- What ends the name of a member, so that a word before it is the name and no modifier. -/
def isNameEnd : Token → Bool
  | .mark m => ["(", "=", ";", "\x7d", ":", "?", "!", ",", "<"].contains m
  | .stop => true
  | _ => false

/-- Takes a modifier, unless the word is itself the name of the member. -/
def modifier (word : String) : Parser Bool := do
  if ← isWord word then
    let second ← peekSecond
    if isNameEnd second.token then return false
    else eatWord word
  else return false

/-- Takes a modifier that must share its line with what it modifies. -/
def sameLineModifier (word : String) : Parser Bool := do
  if (← isWord word) && (← peekSecond).newLine then return false else modifier word

def typeModifier (word : String) : Parser Bool := do
  if (← dialect).types then modifier word else return false

structure MemberHead where
  modifiers : Modifiers
  isAccessor : Bool := false

/-- The modifiers in front of a class member, in any order. -/
def memberModifiers : Parser MemberHead :=
  extended (fun (h : MemberHead) => do
    let m := h.modifiers
    if ! m.isStatic then
      if ← modifier "static" then
        return some { h with modifiers := { m with isStatic := true } }
    if m.accessibility.isNone then
      if ← typeModifier "public" then
        return some { h with modifiers := { m with accessibility := some "public" } }
      if ← typeModifier "protected" then
        return some { h with modifiers := { m with accessibility := some "protected" } }
      if ← typeModifier "private" then
        return some { h with modifiers := { m with accessibility := some "private" } }
    if ← typeModifier "abstract" then
      return some { h with modifiers := { m with isAbstract := true } }
    if ← typeModifier "override" then
      return some { h with modifiers := { m with isOverride := true } }
    if ← typeModifier "readonly" then
      return some { h with modifiers := { m with readonly := true } }
    if ← typeModifier "declare" then
      return some { h with modifiers := { m with declare := true } }
    if (← dialect).types && ! h.isAccessor then
      if ← modifier "accessor" then return some { h with isAccessor := true }
    return none) { modifiers := {} }

def memberKey (g : Grammar) : Parser (Node × Bool) := do
  let l ← peek
  match l.token with
  | .privateName text =>
    takeLexeme l
    return (.leaf l.span (.privateName ((text.drop 1).toString)), true)
  | _ => return (← Patterns.key g, false)

def parameterModifiers : Parser (Option String × Bool × Bool) := do
  let accessibility ←
    if ← typeModifier "public" then pure (some "public")
    else if ← typeModifier "protected" then pure (some "protected")
    else if ← typeModifier "private" then pure (some "private")
    else pure none
  let isOverride ← typeModifier "override"
  let readonly ← typeModifier "readonly"
  return (accessibility, isOverride, readonly)

/-- A parameter of a constructor; one with modifiers declares a property. -/
def constructorParameter (g : Grammar) : Parser Node := do
  let s ← start
  let decorators ← decorators g
  let (accessibility, isOverride, readonly) ← parameterModifiers
  let pattern ← Patterns.parameter g
  let span ← spanFrom s
  if accessibility.isSome || isOverride || readonly then
    return .node span (.parameterProperty accessibility isOverride readonly)
      [.many decorators, pattern]
  else return .node span .parameter [.many decorators, pattern]

def constructor (g : Grammar) (s : Nat) (m : Modifiers) : Parser Node := do
  let key ← Patterns.key g
  within (inside false false) do
    expectMark "("
    let params ← separated (constructorParameter g) ")"
    let body ← body? g
    return .node (← spanFrom s) (.constructor 0 m.accessibility false) [key, .many params, body]

def classMethod (g : Grammar) (s : Nat) (decorators : List Node) (m : Modifiers)
    (kind : MethodKind) (isAsync isGenerator : Bool) (key : Node) (isPrivate : Bool) :
    Parser Node := do
  let function ← function g s isAsync isGenerator
  let function :=
    match function with
    | .node span form [params, _, body, typeParameters, result] =>
      .node span form [params, .many decorators, body, typeParameters, result]
    | other => other
  let form := if isPrivate then Form.privateMethod kind m else Form.classMethod kind m
  return .node (← spanFrom s) form [key, function]

def property (g : Grammar) (s : Nat) (decorators : List Node) (h : MemberHead) (key : Node)
    (isPrivate : Bool) : Parser Node := do
  let definite ← if (← dialect).types then eatMark "!" else pure false
  let type ← Types.ascription? g
  let value ←
    if ← eatMark "=" then within (inside false false) (g .assignment) else pure .absent
  semicolon
  let m := { h.modifiers with definite }
  let form :=
    if h.isAccessor then Form.autoAccessor m
    else if isPrivate then Form.privateProperty 0 m
    else Form.classProperty m
  return .node (← spanFrom s) form [key, value, type, .many decorators]

def staticBlock (g : Grammar) (s : Nat) : Parser Node := do
  let body ← within (inside false false) (g .block)
  return .node (← spanFrom s) .staticBlock [body]

def isConstructorKey : Node → Bool
  | .node _ (.propertyName name) _ => name == "constructor"
  | .node _ (.string value _) _ => value == "constructor"
  | _ => false

/-- The kind of a method, from the words in front of its name. -/
def methodWords : Parser (MethodKind × Bool × Bool) := do
  if ← sameLineModifier "async" then return (.method, true, ← eatMark "*")
  if ← modifier "get" then return (.getter, false, false)
  if ← modifier "set" then return (.setter, false, false)
  return (.method, false, ← eatMark "*")

/-- A member of a class, which may be a semicolon alone. -/
def member (g : Grammar) : Parser Node := do
  let s ← start
  if ← eatMark ";" then return .leaf (← spanFrom s) .empty
  let decorators ← decorators g
  let isStaticBlock ← if ← isWord "static" then
      pure ((← peekSecond).token == .mark "\x7b")
    else pure false
  if isStaticBlock then
    expectWord "static"
    return ← staticBlock g s
  let h ← memberModifiers
  let m := h.modifiers
  let signature? ←
    if (← dialect).types && (← isMark "[") then
      optional (Types.indexSignature g)
    else pure none
  match signature? with
  | some (.node _ (.indexSignature _ _) parts) =>
    return .node (← spanFrom s) (.indexSignature m.readonly m.isStatic) parts
  | _ =>
    let (kind, isAsync, isGenerator) ← methodWords
    let l ← peek
    let isConstructor := ! m.isStatic && kind == .method && ! isAsync && ! isGenerator &&
      ((Patterns.plainKey? l).map isConstructorKey).getD false
    if isConstructor then constructor g s m
    else
      let (key, isPrivate) ← memberKey g
      let isOptional ← if (← dialect).types then eatMark "?" else pure false
      let m := { m with isOptional }
      if (← isMark "(") || (← isMark "<") then
        classMethod g s decorators m kind isAsync isGenerator key isPrivate
      else if kind == .method && ! isAsync && ! isGenerator then
        property g s decorators { h with modifiers := m } key isPrivate
      else fail

def heritage (g : Grammar) : Parser Node := do
  let s ← start
  let expression ← g .lhs
  let arguments ← Types.typeArguments? g
  return .node (← spanFrom s) .heritage [expression, arguments]

def classFrom (g : Grammar) (s : Nat) (decorators : List Node) (isAbstract : Bool) :
    Parser Node := do
  let typeParameters ← Types.typeParameters? g
  let (super, superArguments) ←
    if ← eatWord "extends" then
      let super ← g .lhs
      pure (super, ← Types.typeArguments? g)
    else pure (Node.absent, Node.absent)
  let implements ←
    if (← dialect).types && (← eatWord "implements") then commaSeparated (heritage g) else pure []
  expectMark "\x7b"
  let members ← repeated do
    if ← eatMark "\x7d" then return none else return some (← member g)
  return .node (← spanFrom s) (.classBody 0 isAbstract)
    [.many decorators, .many members, super, typeParameters, superArguments, .many implements]

def className? : Parser (Option Ident) := do
  if (← isWord "implements") && (← dialect).types then return none
  if ← isIdentifierNext then return some (← identifier) else return none

def classDeclaration (g : Grammar) (s : Nat) (decorators : List Node) (declare isAbstract : Bool) :
    Parser Node := do
  expectWord "class"
  let name ← identifier
  let body ← classFrom g s decorators isAbstract
  return .node .nowhere (.classDeclaration name declare) [body]

/-- A class as an expression or default export, which need not be named. -/
def classExpression (g : Grammar) (s : Nat) (decorators : List Node) (isAbstract : Bool) :
    Parser Node := do
  expectWord "class"
  let name ← className?
  let body ← classFrom g s decorators isAbstract
  return .node .nowhere (.classExpression name) [body]

end Functions
end AsyncBody.Source
