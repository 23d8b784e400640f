import AsyncBody.Tree.Layout

/-!
Printing trees as source text. The text of a node is made from the texts of its parts; every
statement stands on a line of its own, and literals keep the spelling of their source.
-/
namespace AsyncBody.Source

/-- The text of a part. A text is `unended` if a semicolon must follow it where it is a statement;
a form that others continue in different ways is a group of texts. -/
inductive Piece where
  | absent
  | group (items : List Piece)
  | text (text : String) (unended : Bool)

namespace Piece

def ended (s : String) : Piece := .text s false

def unended (s : String) : Piece := .text s true

def items : Piece → List Piece
  | .group items => items
  | _ => []

def str : Piece → String
  | .text s _ => s
  | .group [.text s _] => "[" ++ s ++ "]"
  | _ => ""

def isAbsent : Piece → Bool
  | .absent => true
  | _ => false

def isUnended : Piece → Bool
  | .text _ u => u
  | _ => false

def statement (p : Piece) : String := if p.isUnended then p.str ++ ";" else p.str

def strs (p : Piece) : List String := p.items.map str

def commas (p : Piece) : String := String.intercalate ", " p.strs

/-- The text of a part with something in front of it, if the part is there. -/
def after (front : String) (p : Piece) : String := if p.isAbsent then "" else front ++ p.str

def typed (p : Piece) : String := after ": " p

def statements (p : Piece) : String := String.intercalate "\n" (p.items.map statement)

end Piece

def braced (lines : String) : String :=
  if lines.isEmpty then "\x7b\x7d" else "\x7b\n" ++ lines ++ "\n\x7d"

def inBraces (s : String) : String := if s.isEmpty then "\x7b\x7d" else "\x7b " ++ s ++ " \x7d"

def inParens (s : String) : String := "(" ++ s ++ ")"

def inBrackets (s : String) : String := "[" ++ s ++ "]"

def wordIf (b : Bool) (word : String) : String := if b then word ++ " " else ""

def markIf (b : Bool) (mark : String) : String := if b then mark else ""

def dots : String := "..."

/-- A string literal keeps its spelling; one that has none is quoted. -/
def literalText (value : String) (raw : Option String) : String := raw.getD (Json.quote value)

def StringLiteral.source (s : StringLiteral) : String := literalText s.value s.raw

def ExportName.source : ExportName → String
  | .ident name => name.name
  | .string name => StringLiteral.source name

def ModuleName.source : ModuleName → String
  | .ident name => name.name
  | .string name => StringLiteral.source name

/-- A list in which a place can be left empty; an empty last place takes a comma after it. -/
def listWithHoles (items : List Piece) : String :=
  let last := match items.getLast? with
    | some .absent => ","
    | _ => ""
  inBrackets (String.intercalate ", " (items.map Piece.str) ++ last)

/-- An operator and its operand; two signs must not run into one another. -/
def prefixed (operator operand : String) : String :=
  let isWord := (operator.toList.getLast?.map Char.isAlpha).getD false
  let isSign := operand.startsWith "+" || operand.startsWith "-"
  if isWord || isSign then operator ++ " " ++ operand else operator ++ operand

def interleave : List String → List String → String
  | piece :: pieces, expression :: expressions =>
    piece ++ "$\x7b" ++ expression ++ "\x7d" ++ interleave pieces expressions
  | pieces, _ => String.join pieces

/-- A point after whole digits would be theirs, unless there is another one. -/
def pointAfter (object : String) : String :=
  let digits := object.toList
  let isOctal := digits.head? == some '0' && 2 ≤ digits.length
  if ! digits.isEmpty && digits.all Char.isDigit && ! isOctal then ".." else "."

/-- How a property or call follows an object, after `?.` if the object may be missing. -/
def linkText (asked : Bool) (form : Form) (parts : List Piece) : String :=
  match form, parts with
  | .member, [object, .group [index]] => object.str ++ markIf asked "?." ++ inBrackets index.str
  | .member, [object, property] =>
    object.str ++ (if asked then "?." else pointAfter object.str) ++ property.str
  | .call _, [callee, arguments, types] =>
    callee.str ++ markIf asked "?." ++ types.str ++ inParens arguments.commas
  | _, _ => ""

def functionTail (params body types result : Piece) : Piece :=
  let head := types.str ++ inParens params.commas ++ result.typed
  if body.isAbsent then .unended head else .ended (head ++ " " ++ body.str)

def decoratorsText (decorators : Piece) : String :=
  String.join (decorators.strs.map (· ++ " "))

def functionText (front : String) (name : String) (function : Piece) : Piece :=
  match function with
  | .group [async, star, .text tail unended, _] =>
    .text (front ++ async.str ++ "function" ++ star.str ++ markIf (! name.isEmpty) " " ++ name ++
      tail) unended
  | _ => .absent

def methodText (front : String) (kind : MethodKind) (key : String) (function : Piece) : String :=
  match function with
  | .group [async, star, tail, decorators] =>
    let word := match kind with
      | .method => async.str ++ star.str
      | .getter => "get "
      | .setter => "set "
    decorators.str ++ front ++ word ++ key ++ tail.statement
  | _ => ""

def classText (front name : String) (body : Piece) : Piece :=
  match body with
  | .group [decorators, isAbstract, tail] =>
    .ended (decorators.str ++ front ++ isAbstract.str ++ "class" ++ markIf (! name.isEmpty) " " ++
      name ++ tail.str)
  | _ => .absent

def accessibilityText (accessibility : Option String) : String :=
  (accessibility.map (· ++ " ")).getD ""

def Modifiers.front (m : Modifiers) : String :=
  wordIf m.declare "declare" ++ accessibilityText m.accessibility ++ wordIf m.isStatic "static" ++
    wordIf m.isAbstract "abstract" ++ wordIf m.isOverride "override" ++ wordIf m.readonly "readonly"

def Modifiers.mark (m : Modifiers) : String :=
  markIf m.isOptional "?" ++ markIf m.definite "!"

def propertyText (front : String) (m : Modifiers) (key value type decorators : Piece) : String :=
  decoratorsText decorators ++ Modifiers.front m ++ front ++ key.str ++ Modifiers.mark m ++
    type.typed ++ value.after " = " ++ ";"

def expressionText : Form → List Piece → Option String
  | .ident _ name _, _ | .propertyName name, _ => some name
  | .privateName name, _ => some ("#" ++ name)
  | .string value raw, _ => some (literalText value raw)
  | .number value raw, _ => some (raw.getD (Json.decimalText value))
  | .bigint raw, _ => some raw
  | .boolean value, _ => some (if value then "true" else "false")
  | .nullLiteral, _ => some "null"
  | .regex pattern flags, _ => some ("/" ++ pattern ++ "/" ++ flags)
  | .this, _ => some "this"
  | .super, _ => some "super"
  | .importKeyword .evaluation, _ => some "import"
  | .importKeyword phase, _ => some ("import." ++ phase.text)
  | .metaProperty kind, _ => some kind.text
  | .array, [elements] => some (listWithHoles elements.items)
  | .argument spread, [expression] => some (markIf spread.isSome dots ++ expression.str)
  | .object, [properties] => some (inBraces properties.commas)
  | .keyValue, [key, value] => some (key.str ++ ": " ++ value.str)
  | .spread _, [argument] => some (dots ++ argument.str)
  | .method, [key, function] => some (methodText "" .method key.str function)
  | .getter, [key, type, body] => some ("get " ++ key.str ++ "()" ++ type.typed ++ " " ++ body.str)
  | .setter, [key, _, param, body] =>
    some ("set " ++ key.str ++ inParens param.str ++ " " ++ body.str)
  | .arrow _ async generator, [params, body, types, result] =>
    some (wordIf async "async" ++ markIf generator "*" ++ types.str ++ inParens params.commas ++
      result.typed ++ " => " ++ body.str)
  | .member, parts => some (linkText false .member parts)
  | .superProperty, parts => some (linkText false .member parts)
  | .call ctxt, parts => some (linkText false (.call ctxt) parts)
  | .new _, [callee, arguments, types] =>
    some ("new " ++ callee.str ++ types.str ++
      if arguments.isAbsent then "" else inParens arguments.commas)
  | .unary operator, [argument] => some (prefixed operator argument.str)
  | .update operator true, [argument] => some (prefixed operator argument.str)
  | .update operator false, [argument] => some (argument.str ++ operator)
  | .binary operator, [left, right] => some (left.str ++ " " ++ operator ++ " " ++ right.str)
  | .assignment operator, [left, right] => some (left.str ++ " " ++ operator ++ " " ++ right.str)
  | .conditional, [test, yes, no] => some (test.str ++ " ? " ++ yes.str ++ " : " ++ no.str)
  | .sequence, [expressions] => some expressions.commas
  | .yield delegate, [argument] => some ("yield" ++ markIf delegate "*" ++ argument.after " ")
  | .await, [argument] => some ("await " ++ argument.str)
  | .parenthesis, [expression] => some (inParens expression.str)
  | .template, [expressions, quasis] =>
    some ("`" ++ interleave quasis.strs expressions.strs ++ "`")
  | .templateElement _ _ raw, _ => some raw
  | .taggedTemplate _, [tag, types, template] => some (tag.str ++ types.str ++ template.str)
  | .asExpression, [expression, type] => some (expression.str ++ " as " ++ type.str)
  | .satisfiesExpression, [expression, type] => some (expression.str ++ " satisfies " ++ type.str)
  | .typeAssertion, [expression, type] => some ("<" ++ type.str ++ ">" ++ expression.str)
  | .constAssertion, [expression] => some (expression.str ++ " as const")
  | .nonNull, [expression] => some (expression.str ++ "!")
  | .instantiation, [expression, types] => some (expression.str ++ types.str)
  | .heritage, [expression, types] => some (expression.str ++ types.str)
  | _, _ => none

def tagItemText (item : Piece) : String :=
  if item.str.startsWith dots then " \x7b" ++ item.str ++ "\x7d" else item.after " "

def markupText : Form → List Piece → Option String
  | .element, [opening, children, closing] =>
    some (opening.str ++ String.join children.strs ++ closing.str)
  | .openingElement selfClosing, [name, tagged, types] =>
    some ("<" ++ name.str ++ types.str ++ String.join (tagged.items.map tagItemText) ++
      if selfClosing then " />" else ">")
  | .closingElement, [name] => some ("</" ++ name.str ++ ">")
  | .fragment, [opening, children, closing] =>
    some (opening.str ++ String.join children.strs ++ closing.str)
  | .openingFragment, _ => some "<>"
  | .closingFragment, _ => some "</>"
  | .markupAttribute, [name, value] => some (name.str ++ value.after "=")
  | .expressionContainer, [expression] => some ("\x7b" ++ expression.str ++ "\x7d")
  | .emptyExpression, _ => some ""
  | .spreadChild, [expression] => some ("\x7b" ++ dots ++ expression.str ++ "\x7d")
  | .markupText _ raw, _ => some raw
  | .markupMember, [object, property] => some (object.str ++ "." ++ property.str)
  | .markupNamespacedName, [space, name] => some (space.str ++ ":" ++ name.str)
  | _, _ => none

def patternText : Form → List Piece → Option String
  | .binding _ name optional, [type] => some (name ++ markIf optional "?" ++ type.typed)
  | .arrayPattern optional, [elements, type] =>
    some (listWithHoles elements.items ++ markIf optional "?" ++ type.typed)
  | .objectPattern optional, [properties, type] =>
    some (inBraces properties.commas ++ markIf optional "?" ++ type.typed)
  | .restElement _, [argument, type] => some (dots ++ argument.str ++ type.typed)
  | .assignmentPattern, [left, right] => some (left.str ++ " = " ++ right.str)
  | .keyValuePattern, [key, value] => some (key.str ++ ": " ++ value.str)
  | .shorthandPattern, [key, value] => some (key.str ++ value.after " = ")
  | .parameter, [decorators, pattern] => some (decoratorsText decorators ++ pattern.str)
  | .parameterProperty accessibility override readonly, [decorators, param] =>
    some (decoratorsText decorators ++ accessibilityText accessibility ++
      wordIf override "override" ++ wordIf readonly "readonly" ++ param.str)
  | .decorator, [expression] => some ("@" ++ expression.str)
  | .classMethod kind m, [key, function] =>
    some (methodText (Modifiers.front m) kind (key.str ++ Modifiers.mark m) function)
  | .privateMethod kind m, [key, function] =>
    some (methodText (Modifiers.front m) kind (key.str ++ Modifiers.mark m) function)
  | .classProperty m, [key, value, type, decorators] =>
    some (propertyText "" m key value type decorators)
  | .privateProperty _ m, [key, value, type, decorators] =>
    some (propertyText "" m key value type decorators)
  | .autoAccessor m, [key, value, type, decorators] =>
    some (propertyText "accessor " m key value type decorators)
  | .constructor _ accessibility _, [key, params, body] =>
    some (accessibilityText accessibility ++ key.str ++
      (functionTail params body .absent .absent).statement)
  | .staticBlock, [body] => some ("static " ++ body.str)
  | _, _ => none

def ImportSpecifier.source : ImportSpecifier → String
  | .named _ bound imported typeOnly =>
    wordIf typeOnly "type" ++
      (imported.map fun name => ExportName.source name ++ " as ").getD "" ++ bound.name
  | .default _ bound => bound.name
  | .whole _ bound => "* as " ++ bound.name

def ExportSpecifier.source : ExportSpecifier → String
  | .named _ inner exported typeOnly =>
    wordIf typeOnly "type" ++ ExportName.source inner ++
      (exported.map fun name => " as " ++ ExportName.source name).getD ""
  | .default exported => exported.name
  | .whole _ exported => "* as " ++ ExportName.source exported

def ImportSpecifier.isListed : ImportSpecifier → Bool
  | .named .. => true
  | _ => false

def ExportSpecifier.isListed : ExportSpecifier → Bool
  | .named .. => true
  | _ => false

/-- Specifiers that stand alone, then the list of the others in braces. -/
def specifiersText {α : Type} (isListed : α → Bool) (text : α → String) (specifiers : List α)
    (always : Bool) : String :=
  let listed := (specifiers.filter isListed).map text
  let alone := (specifiers.filter (! isListed ·)).map text
  let list := if listed.isEmpty && ! always then [] else [inBraces (String.intercalate ", " listed)]
  String.intercalate ", " (alone ++ list)

def moduleItemText : Form → List Piece → Option Piece
  | .importDeclaration specifiers source typeOnly phase, [attributes] =>
    let word := if phase = .evaluation then "" else phase.text ++ " "
    let names := specifiersText ImportSpecifier.isListed ImportSpecifier.source specifiers false
    let front := if specifiers.isEmpty then "" else names ++ " from "
    some (.unended ("import " ++ wordIf typeOnly "type" ++ word ++ front ++
      StringLiteral.source source ++ attributes.after " with "))
  | .exportDeclaration, [declaration] =>
    some (.text ("export " ++ declaration.str) declaration.isUnended)
  | .exportNamed specifiers source typeOnly, [attributes] =>
    let isAlone := specifiers.any (! ExportSpecifier.isListed ·)
    let names :=
      specifiersText ExportSpecifier.isListed ExportSpecifier.source specifiers (! isAlone)
    some (.unended ("export " ++ wordIf typeOnly "type" ++ names ++
      (source.map fun s => " from " ++ StringLiteral.source s).getD "" ++
      attributes.after " with "))
  | .exportAll source typeOnly, [attributes] =>
    some (.unended ("export " ++ wordIf typeOnly "type" ++ "* from " ++
      StringLiteral.source source ++ attributes.after " with "))
  | .exportDefaultDeclaration, [declaration] =>
    some (.text ("export default " ++ declaration.str) declaration.isUnended)
  | .exportDefaultExpression, [expression] =>
    some (.unended ("export default " ++ expression.str))
  | .importEquals isExport typeOnly name, [reference] =>
    some (.unended (wordIf isExport "export" ++ "import " ++ wordIf typeOnly "type" ++ name.name ++
      " = " ++ reference.str))
  | .qualifiedName, [left, right] => some (.ended (left.str ++ "." ++ right.str))
  | .externalModule source, _ =>
    some (.ended ("require" ++ inParens (StringLiteral.source source)))
  | .exportAssignment, [expression] => some (.unended ("export = " ++ expression.str))
  | .exportAsNamespace name, _ => some (.unended ("export as namespace " ++ name.name))
  | _, _ => none

def declarationText : Form → List Piece → Option Piece
  | .variableDeclaration _ kind declare, [declarators] =>
    some (.unended (wordIf declare "declare" ++ kind.text ++ " " ++ declarators.commas))
  | .declarator definite, [pattern, value] =>
    some (.ended (pattern.str ++ markIf definite "!" ++ value.after " = "))
  | .usingDeclaration isAwait, [declarators] =>
    some (.unended (wordIf isAwait "await" ++ "using " ++ declarators.commas))
  | .functionDeclaration name declare, [function] =>
    some (functionText (wordIf declare "declare") name.name function)
  | .functionExpression name, [function] =>
    some (functionText "" ((name.map (·.name)).getD "") function)
  | .classDeclaration name declare, [body] =>
    some (classText (wordIf declare "declare") name.name body)
  | .classExpression name, [body] => some (classText "" ((name.map (·.name)).getD "") body)
  | .enumDeclaration declare isConst name, [members] =>
    some (.ended (wordIf declare "declare" ++ wordIf isConst "const" ++ "enum " ++ name.name ++
      " " ++ braced (String.intercalate ",\n" members.strs)))
  | .enumMember, [id, init] => some (.ended (id.str ++ init.after " = "))
  | .moduleDeclaration declare global isNamespace name, [body] =>
    let word := if global then "" else if isNamespace then "namespace " else "module "
    let head := wordIf declare "declare" ++ word ++ ModuleName.source name
    some (if body.isAbsent then .unended head else .ended (head ++ body.str))
  | .namespaceDeclaration _ _ name, [body] => some (.ended ("." ++ name.name ++ body.str))
  | .moduleBlock, [items] => some (.ended (" " ++ braced items.statements))
  | .interfaceDeclaration name declare, [types, extended, body] =>
    let front := if extended.items.isEmpty then "" else " extends " ++ extended.commas
    some (.ended (wordIf declare "declare" ++ "interface " ++ name.name ++ types.str ++ front ++
      " " ++ body.str))
  | .interfaceBody, [members] => some (.ended (braced (String.intercalate "\n" members.strs)))
  | .typeAlias declare name, [types, type] =>
    some (.unended (wordIf declare "declare" ++ "type " ++ name.name ++ types.str ++ " = " ++
      type.str))
  | _, _ => none

def statementText : Form → List Piece → Option Piece
  | .block _, [statements] => some (.ended (braced statements.statements))
  | .empty, _ => some (.ended ";")
  | .debugger, _ => some (.unended "debugger")
  | .expressionStatement, [expression] => some (.unended expression.str)
  | .returnStatement, [argument] => some (.unended ("return" ++ argument.after " "))
  | .throwStatement, [argument] => some (.unended ("throw " ++ argument.str))
  | .labeled, [label, body] => some (.ended (label.str ++ ": " ++ body.statement))
  | .breakStatement, [label] => some (.unended ("break" ++ label.after " "))
  | .continueStatement, [label] => some (.unended ("continue" ++ label.after " "))
  | .ifStatement, [test, yes, no] =>
    let tail := if no.isAbsent then "" else " else " ++ no.statement
    some (.ended ("if " ++ inParens test.str ++ " " ++ yes.statement ++ tail))
  | .switchStatement, [discriminant, cases] =>
    some (.ended ("switch " ++ inParens discriminant.str ++ " " ++
      braced (String.intercalate "\n" cases.strs)))
  | .switchCase, [test, consequent] =>
    let head := if test.isAbsent then "default:" else "case " ++ test.str ++ ":"
    some (.ended (String.intercalate "\n" (head :: consequent.items.map Piece.statement)))
  | .tryStatement, [body, handler, finalizer] =>
    some (.ended ("try " ++ body.str ++ handler.after " " ++ finalizer.after " finally "))
  | .catchClause, [param, body] =>
    let head := if param.isAbsent then "" else inParens param.str ++ " "
    some (.ended ("catch " ++ head ++ body.str))
  | .whileStatement, [test, body] =>
    some (.ended ("while " ++ inParens test.str ++ " " ++ body.statement))
  | .doWhileStatement, [test, body] =>
    some (.unended ("do " ++ body.statement ++ " while " ++ inParens test.str))
  | .forStatement, [init, test, update, body] =>
    let head := init.str ++ ";" ++ test.after " " ++ ";" ++ update.after " "
    some (.ended ("for " ++ inParens head ++ " " ++ body.statement))
  | .forInStatement, [left, right, body] =>
    some (.ended ("for " ++ inParens (left.str ++ " in " ++ right.str) ++ " " ++ body.statement))
  | .forOfStatement isAwait, [left, right, body] =>
    some (.ended ("for " ++ wordIf isAwait "await" ++ inParens (left.str ++ " of " ++ right.str) ++
      " " ++ body.statement))
  | .withStatement, [object, body] =>
    some (.ended ("with " ++ inParens object.str ++ " " ++ body.statement))
  | _, _ => none

def memberType (front : String) (params result types : Piece) : String :=
  front ++ types.str ++ inParens params.commas ++ result.typed ++ ";"

def typeText : Form → List Piece → Option String
  | .ascription, [type] => some type.str
  | .keywordType kind, _ => some kind
  | .thisType, _ => some "this"
  | .typeReference, [name, arguments] => some (name.str ++ arguments.str)
  | .arrayType, [element] => some (element.str ++ "[]")
  | .unionType, [types] => some (String.intercalate " | " types.strs)
  | .intersectionType, [types] => some (String.intercalate " & " types.strs)
  | .parenthesizedType, [type] => some (inParens type.str)
  | .literalType, [literal] => some literal.str
  | .tupleType, [elements] => some (inBrackets elements.commas)
  | .tupleElement, [label, type] => some (label.after "" ++ (if label.isAbsent then "" else ": ") ++
      type.str)
  | .optionalType, [type] => some (type.str ++ "?")
  | .restType, [type] => some (dots ++ type.str)
  | .typeLiteral, [members] => some (braced (String.intercalate "\n" members.strs))
  | .propertySignature readonly isComputed optional, [key, type] =>
    some (wordIf readonly "readonly" ++ (if isComputed then inBrackets key.str else key.str) ++
      markIf optional "?" ++ type.typed ++ ";")
  | .methodSignature isComputed optional, [key, params, result, types] =>
    let key := (if isComputed then inBrackets key.str else key.str) ++ markIf optional "?"
    some (memberType key params result types)
  | .indexSignature readonly isStatic, [params, type] =>
    some (wordIf isStatic "static" ++ wordIf readonly "readonly" ++ inBrackets params.commas ++
      type.typed ++ ";")
  | .callSignature, [params, result, types] => some (memberType "" params result types)
  | .constructSignature, [params, result, types] => some (memberType "new " params result types)
  | .functionType, [params, types, result] =>
    some (types.str ++ inParens params.commas ++ " => " ++ result.str)
  | .constructorType isAbstract, [params, types, result] =>
    some (wordIf isAbstract "abstract" ++ "new " ++ types.str ++ inParens params.commas ++ " => " ++
      result.str)
  | .typePredicate asserts, [name, type] =>
    some (wordIf asserts "asserts" ++ name.str ++ type.after " is ")
  | .inferType, [parameter] => some ("infer " ++ parameter.str)
  | .typeParameters, [parameters] => some ("<" ++ parameters.commas ++ ">")
  | .typeParameter isIn isOut isConst, [name, constraint, default] =>
    some (wordIf isConst "const" ++ wordIf isIn "in" ++ wordIf isOut "out" ++ name.str ++
      constraint.after " extends " ++ default.after " = ")
  | .typeArguments, [types] => some ("<" ++ types.commas ++ ">")
  | .typeQuery, [name, arguments] => some ("typeof " ++ name.str ++ arguments.str)
  | .typeOperator operator, [type] => some (operator ++ " " ++ type.str)
  | .indexedAccess _, [object, index] => some (object.str ++ inBrackets index.str)
  | .importType, [argument, qualifier, arguments, _] =>
    some ("import" ++ inParens argument.str ++ qualifier.after "." ++ arguments.str)
  | .conditionalType, [check, bound, yes, no] =>
    some (check.str ++ " extends " ++ bound.str ++ " ? " ++ yes.str ++ " : " ++ no.str)
  | _, _ => none

/-- The text of a form from the texts of its parts. -/
def assemble (form : Form) (parts : List Piece) : Piece :=
  match form, parts with
  | .computed, [expression] => .group [expression]
  | .function _ generator async, [params, decorators, body, types, result] =>
    .group [.ended (wordIf async "async"), .ended (markIf generator "*"),
      functionTail params body types result, .ended (decoratorsText decorators)]
  | .classBody _ isAbstract, [decorators, members, super, types, superTypes, implements] =>
    let implemented := if implements.items.isEmpty then "" else " implements " ++ implements.commas
    .group [.ended (decoratorsText decorators), .ended (wordIf isAbstract "abstract"),
      .ended (types.str ++ super.after " extends " ++ superTypes.str ++ implemented ++ " " ++
        braced members.statements)]
  | _, _ =>
    match (expressionText form parts <|> markupText form parts <|> patternText form parts <|>
        typeText form parts).map Piece.ended <|>
      statementText form parts <|> declarationText form parts <|> moduleItemText form parts with
    | some piece => piece
    | none => .absent

mutual

def piece : Node → Piece
  | .absent => .absent
  | .many items => .group (pieces items)
  | .node _ (.optionalChain asked) [.node _ form parts] =>
    .ended (linkText asked form (pieces parts))
  | .node _ form parts => assemble form (pieces parts)

def pieces : List Node → List Piece
  | [] => []
  | item :: rest => piece item :: pieces rest

end

/-- The text of a program, a line for each of its statements at least. -/
def print (p : Program) : String :=
  let first := (p.interpreter.map fun line => "#!" ++ line ++ "\n").getD ""
  first ++ String.join ((pieces p.body).map fun statement => statement.statement ++ "\n")

end AsyncBody.Source
