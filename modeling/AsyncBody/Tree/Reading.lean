import AsyncBody.Tree.Layout

/-!
Reading trees back from data objects. An object whose kind is not among the forms, or whose fields
do not fit its form, is kept as it is inside a tree; as an item of a program it is refused.
-/
namespace AsyncBody

namespace Json

def flag? (j : Json) (name : String) : Option Bool := (j.field? name).bind bool?

def text? (j : Json) (name : String) : Option String := (j.field? name).bind string?

def count? (j : Json) (name : String) : Option Nat := (j.field? name).bind nat?

def textOrNull? (j : Json) (name : String) : Option (Option String) :=
  (j.field? name).bind (optional? string?)

def spanAt? (j : Json) (name : String) : Option Span := (j.field? name).bind Span.ofJson?

end Json

def Ident.ofJson? (j : Json) : Option Ident := do
  guard (j.text? "type" = some "Identifier")
  return ⟨← j.spanAt? "span",← j.count? "ctxt",← j.text? "value",← j.flag? "optional"⟩

def StringLiteral.ofJson? (j : Json) : Option StringLiteral := do
  guard (j.text? "type" = some "StringLiteral")
  return ⟨← j.spanAt? "span",← j.text? "value",← j.textOrNull? "raw"⟩

def ExportName.ofJson? (j : Json) : Option ExportName :=
  (Ident.ofJson? j).map .ident <|> (StringLiteral.ofJson? j).map .string

def ModuleName.ofJson? (j : Json) : Option ModuleName :=
  (Ident.ofJson? j).map .ident <|> (StringLiteral.ofJson? j).map .string

namespace Json

def identAt? (j : Json) (name : String) : Option Ident := (j.field? name).bind Ident.ofJson?

def identOrNull? (j : Json) (name : String) : Option (Option Ident) :=
  (j.field? name).bind (optional? Ident.ofJson?)

def stringAt? (j : Json) (name : String) : Option StringLiteral :=
  (j.field? name).bind StringLiteral.ofJson?

end Json

def ImportSpecifier.ofJson? (j : Json) : Option ImportSpecifier := do
  let kind ← j.text? "type"
  let span ← j.spanAt? "span"
  let bound ← j.identAt? "local"
  match kind with
  | "ImportSpecifier" =>
    let imported ← (← j.field? "imported").optional? ExportName.ofJson?
    return .named span bound imported (← j.flag? "isTypeOnly")
  | "ImportDefaultSpecifier" => return .default span bound
  | "ImportNamespaceSpecifier" => return .whole span bound
  | _ => none

def ExportSpecifier.ofJson? (j : Json) : Option ExportSpecifier := do
  match ← j.text? "type" with
  | "ExportSpecifier" =>
    let inner ← ExportName.ofJson? (← j.field? "orig")
    let exported ← (← j.field? "exported").optional? ExportName.ofJson?
    return .named (← j.spanAt? "span") inner exported (← j.flag? "isTypeOnly")
  | "ExportDefaultSpecifier" => return .default (← j.identAt? "exported")
  | "ExportNamespaceSpecifier" =>
    return .whole (← j.spanAt? "span") (← ExportName.ofJson? (← j.field? "name"))
  | _ => none

def ImportPhase.ofText? : String → Option ImportPhase
  | "evaluation" => some .evaluation
  | "source" => some .source
  | "defer" => some .defer
  | _ => none

def MetaKind.ofText? : String → Option MetaKind
  | "import.meta" => some .importMeta
  | "new.target" => some .newTarget
  | _ => none

def VariableKind.ofText? : String → Option VariableKind
  | "var" => some .var
  | "let" => some .lexical
  | "const" => some .const
  | _ => none

def MethodKind.ofText? : String → Option MethodKind
  | "method" => some .method
  | "getter" => some .getter
  | "setter" => some .setter
  | _ => none

/-- The modifiers that an object states; those that it does not mention are off. -/
def Modifiers.ofJson (j : Json) : Modifiers where
  isStatic := (j.flag? "isStatic").getD false
  accessibility := (j.textOrNull? "accessibility").join
  isAbstract := (j.flag? "isAbstract").getD false
  isOptional := (j.flag? "isOptional").getD false
  isOverride := (j.flag? "isOverride").getD false
  readonly := (j.flag? "readonly").getD false
  declare := (j.flag? "declare").getD false
  definite := (j.flag? "definite").getD false

namespace Form

/-- The forms that say nothing beside their parts. -/
def bare : List Form :=
  [.nullLiteral, .this, .super, .invalid, .array, .object, .keyValue, .method, .getter, .setter,
    .computed, .member, .superProperty, .conditional, .sequence, .await, .parenthesis, .template,
    .asExpression, .satisfiesExpression, .typeAssertion, .constAssertion, .nonNull, .instantiation,
    .heritage, .element, .closingElement, .fragment, .openingFragment, .closingFragment,
    .markupAttribute, .expressionContainer, .emptyExpression, .spreadChild, .markupMember,
    .markupNamespacedName, .assignmentPattern, .keyValuePattern, .shorthandPattern, .parameter,
    .decorator, .staticBlock, .empty, .debugger, .expressionStatement, .returnStatement,
    .throwStatement, .labeled, .breakStatement, .continueStatement, .ifStatement, .switchStatement,
    .switchCase, .tryStatement, .catchClause, .whileStatement, .doWhileStatement, .forStatement,
    .forInStatement, .withStatement, .enumMember, .moduleBlock, .interfaceBody, .exportDeclaration,
    .exportDefaultDeclaration, .exportDefaultExpression, .qualifiedName, .exportAssignment,
    .ascription, .thisType, .typeReference, .arrayType, .unionType, .intersectionType,
    .parenthesizedType, .literalType, .tupleType, .tupleElement, .optionalType, .restType,
    .typeLiteral, .callSignature, .constructSignature, .functionType, .inferType, .typeParameters,
    .typeArguments, .typeQuery, .conditionalType, .importType, .importOptions]

def ofBareKind? (kind : String) : Option Form :=
  bare.find? fun form => form.layout.kind == some kind

def functionOf? (j : Json) : Option Form := do
  return .function (← j.count? "ctxt") (← j.flag? "generator") (← j.flag? "async")

def classOf? (j : Json) : Option Form := do
  return .classBody (← j.count? "ctxt") (← j.flag? "isAbstract")

/-- The form of an object that states no type: an argument or the function of a method. -/
def ofUntyped? (j : Json) : Option Form :=
  (do return .argument (← (← j.field? "spread").optional? Span.ofJson?)) <|> functionOf? j

/-- An identifier with an annotation is a pattern, one without a context a property name. -/
def ofIdentifier? (j : Json) : Option Form := do
  let name ← j.text? "value"
  match j.field? "ctxt" with
  | none => return .propertyName name
  | some ctxt =>
    let form := if (j.field? "typeAnnotation").isSome then Form.binding else Form.ident
    return form (← ctxt.nat?) name (← j.flag? "optional")

def ofLiteral? (kind : String) (j : Json) : Option Form := do
  match kind with
  | "PrivateName" => return .privateName (← j.text? "value")
  | "StringLiteral" => return .string (← j.text? "value") (← j.textOrNull? "raw")
  | "NumericLiteral" =>
    return .number (← (← j.field? "value").number?) (← j.textOrNull? "raw")
  | "BooleanLiteral" => return .boolean (← j.flag? "value")
  | "RegExpLiteral" => return .regex (← j.text? "pattern") (← j.text? "flags")
  | "TemplateElement" =>
    return .templateElement (← j.flag? "tail") (← j.textOrNull? "cooked") (← j.text? "raw")
  | "JSXText" => return .markupText (← j.text? "value") (← j.text? "raw")
  | _ => none

def ofExpression? (kind : String) (j : Json) : Option Form := do
  match kind with
  | "Import" => return .importKeyword (← ImportPhase.ofText? (← j.text? "phase"))
  | "MetaProperty" => return .metaProperty (← MetaKind.ofText? (← j.text? "kind"))
  | "SpreadElement" => return .spread (← j.spanAt? "spread")
  | "FunctionExpression" => return .functionExpression (← j.identOrNull? "identifier")
  | "ArrowFunctionExpression" =>
    return .arrow (← j.count? "ctxt") (← j.flag? "async") (← j.flag? "generator")
  | "ClassExpression" => return .classExpression (← j.identOrNull? "identifier")
  | "CallExpression" => return .call (← j.count? "ctxt")
  | "NewExpression" => return .new (← j.count? "ctxt")
  | "OptionalChainingExpression" => return .optionalChain (← j.flag? "optional")
  | "UnaryExpression" => return .unary (← j.text? "operator")
  | "UpdateExpression" => return .update (← j.text? "operator") (← j.flag? "prefix")
  | "BinaryExpression" => return .binary (← j.text? "operator")
  | "AssignmentExpression" => return .assignment (← j.text? "operator")
  | "YieldExpression" => return .yield (← j.flag? "delegate")
  | "TaggedTemplateExpression" => return .taggedTemplate (← j.count? "ctxt")
  | "JSXOpeningElement" => return .openingElement (← j.flag? "selfClosing")
  | _ => none

def ofPattern? (kind : String) (j : Json) : Option Form := do
  match kind with
  | "ArrayPattern" => return .arrayPattern (← j.flag? "optional")
  | "ObjectPattern" => return .objectPattern (← j.flag? "optional")
  | "RestElement" => return .restElement (← j.spanAt? "rest")
  | "TsParameterProperty" =>
    return .parameterProperty (← j.textOrNull? "accessibility") (← j.flag? "override")
      (← j.flag? "readonly")
  | _ => none

def ofMember? (kind : String) (j : Json) : Option Form := do
  let modifiers := Modifiers.ofJson j
  match kind with
  | "ClassMethod" => return .classMethod (← MethodKind.ofText? (← j.text? "kind")) modifiers
  | "PrivateMethod" => return .privateMethod (← MethodKind.ofText? (← j.text? "kind")) modifiers
  | "ClassProperty" => return .classProperty modifiers
  | "PrivateProperty" => return .privateProperty (← j.count? "ctxt") modifiers
  | "AutoAccessor" => return .autoAccessor modifiers
  | "Constructor" =>
    return .constructor (← j.count? "ctxt") (← j.textOrNull? "accessibility")
      (← j.flag? "isOptional")
  | _ => none

def ofStatement? (kind : String) (j : Json) : Option Form := do
  match kind with
  | "BlockStatement" => return .block (← j.count? "ctxt")
  | "ForOfStatement" => return .forOfStatement (← j.flag? "await")
  | "VariableDeclaration" =>
    return .variableDeclaration (← j.count? "ctxt") (← VariableKind.ofText? (← j.text? "kind"))
      (← j.flag? "declare")
  | "VariableDeclarator" => return .declarator (← j.flag? "definite")
  | "UsingDeclaration" => return .usingDeclaration (← j.flag? "isAwait")
  | "FunctionDeclaration" =>
    return .functionDeclaration (← j.identAt? "identifier") (← j.flag? "declare")
  | "ClassDeclaration" =>
    return .classDeclaration (← j.identAt? "identifier") (← j.flag? "declare")
  | "TsEnumDeclaration" =>
    return .enumDeclaration (← j.flag? "declare") (← j.flag? "isConst") (← j.identAt? "id")
  | "TsModuleDeclaration" =>
    return .moduleDeclaration (← j.flag? "declare") (← j.flag? "global") (← j.flag? "namespace")
      (← ModuleName.ofJson? (← j.field? "id"))
  | "TsNamespaceDeclaration" =>
    return .namespaceDeclaration (← j.flag? "declare") (← j.flag? "global") (← j.identAt? "id")
  | "TsInterfaceDeclaration" =>
    return .interfaceDeclaration (← j.identAt? "id") (← j.flag? "declare")
  | "TsTypeAliasDeclaration" => return .typeAlias (← j.flag? "declare") (← j.identAt? "id")
  | _ => none

def ofModuleItem? (kind : String) (j : Json) : Option Form := do
  match kind with
  | "ImportDeclaration" =>
    let specifiers ← (← (← j.field? "specifiers").array?).mapM ImportSpecifier.ofJson?
    return .importDeclaration specifiers (← j.stringAt? "source") (← j.flag? "typeOnly")
      (← ImportPhase.ofText? (← j.text? "phase"))
  | "ExportNamedDeclaration" =>
    let specifiers ← (← (← j.field? "specifiers").array?).mapM ExportSpecifier.ofJson?
    let source ← (← j.field? "source").optional? StringLiteral.ofJson?
    return .exportNamed specifiers source (← j.flag? "typeOnly")
  | "ExportAllDeclaration" => return .exportAll (← j.stringAt? "source") (← j.flag? "typeOnly")
  | "TsImportEqualsDeclaration" =>
    return .importEquals (← j.flag? "isExport") (← j.flag? "isTypeOnly") (← j.identAt? "id")
  | "TsExternalModuleReference" => return .externalModule (← j.stringAt? "expression")
  | "TsNamespaceExportDeclaration" => return .exportAsNamespace (← j.identAt? "id")
  | _ => none

def ofType? (kind : String) (j : Json) : Option Form := do
  match kind with
  | "TsKeywordType" => return .keywordType (← j.text? "kind")
  | "TsPropertySignature" =>
    return .propertySignature (← j.flag? "readonly") (← j.flag? "computed") (← j.flag? "optional")
  | "TsMethodSignature" => return .methodSignature (← j.flag? "computed") (← j.flag? "optional")
  | "TsIndexSignature" => return .indexSignature (← j.flag? "readonly") (← j.flag? "static")
  | "TsTypeParameter" =>
    return .typeParameter (← j.flag? "in") (← j.flag? "out") (← j.flag? "const")
  | "TsConstructorType" => return .constructorType (← j.flag? "isAbstract")
  | "TsTypePredicate" => return .typePredicate (← j.flag? "asserts")
  | "TsTypeOperator" => return .typeOperator (← j.text? "op")
  | "TsIndexedAccessType" => return .indexedAccess (← j.flag? "readonly")
  | _ => none

def ofJson? (j : Json) : Option Form :=
  match j.field? "type" with
  | none => ofUntyped? j
  | some (.string "Identifier") => ofIdentifier? j
  | some (.string kind) =>
    ofBareKind? kind <|> ofLiteral? kind j <|> ofExpression? kind j <|> ofPattern? kind j <|>
      ofMember? kind j <|> ofStatement? kind j <|> ofModuleItem? kind j <|> ofType? kind j
  | some _ => none

/-- The form whose parts are inlined among the fields of an object of this form. -/
def inlinedOf? (j : Json) : Form → Option Form
  | .functionDeclaration .. | .functionExpression .. | .method => functionOf? j
  | .classDeclaration .. | .classExpression .. => classOf? j
  | _ => none

end Form

namespace Node

/-- The place that a layout asks of an object. -/
def spanFor? (layout : Layout) (j : Json) : Option Span :=
  if layout.spanned then j.spanAt? "span" else some .nowhere

def fieldParts? (fields : List (String × Node)) (names : List String) : Option (List Node) :=
  names.mapM (fields.lookup ·)

/-- The part at one place of a layout, from the fields of the object that are nodes. -/
def partOf? (j : Json) (form : Form) (fields : List (String × Node)) : Part → Option Node
  | .field name => fields.lookup name
  | .inlined => do
    let inner ← form.inlinedOf? j
    let names := inner.layout.parts.filterMap fun | .field name => some name | .inlined => none
    return .node (← spanFor? inner.layout j) inner (← fieldParts? fields names)

def ofForm? (j : Json) (fields : List (String × Node)) : Option Node := do
  let form ← Form.ofJson? j
  let span ← spanFor? form.layout j
  return .node span form (← form.layout.parts.mapM (partOf? j form fields))

def isContainer : Json → Bool
  | .array _ | .object _ => true
  | _ => false

/-- Keeps an object as it is: its containers that are nodes become parts, all else is its data. -/
def ofOther? (j : Json) (fields : List (String × Node)) : Option Node := do
  let kind ← j.text? "type"
  let isPart (field : String × Json) : Bool :=
    isContainer field.2 && (fields.lookup field.1).isSome
  let own := j.fields.filter fun field => field.1 != "type"
  let names := (own.filter isPart).map (·.1)
  return .node .nowhere (.other kind (own.filter (! isPart ·)) names) (← fieldParts? fields names)

mutual

def ofJson? : Json → Option Node
  | .null => some .absent
  | .array items => (ofItems? items).map .many
  | .object fields =>
    let parts := ofFields fields
    ofForm? (.object fields) parts <|> ofOther? (.object fields) parts
  | _ => none

def ofItems? : List Json → Option (List Node)
  | [] => some []
  | item :: rest => do return (← ofJson? item) :: (← ofItems? rest)

def ofFields : List (String × Json) → List (String × Node)
  | [] => []
  | (name, value) :: rest =>
    match ofJson? value with
    | some part => (name, part) :: ofFields rest
    | none => ofFields rest

end

end Node

namespace Form

/-- Statements, declarations included. -/
def isStatement : Form → Bool
  | .block .. | .empty | .debugger | .expressionStatement | .returnStatement | .throwStatement
  | .labeled | .breakStatement | .continueStatement | .ifStatement | .switchStatement
  | .tryStatement | .whileStatement | .doWhileStatement | .forStatement | .forInStatement
  | .forOfStatement .. | .withStatement | .variableDeclaration .. | .usingDeclaration ..
  | .functionDeclaration .. | .classDeclaration .. | .enumDeclaration .. | .moduleDeclaration ..
  | .interfaceDeclaration .. | .typeAlias .. => true
  | _ => false

/-- Imports and exports, which stand only at the top of a module or namespace. -/
def isModuleDeclaration : Form → Bool
  | .importDeclaration .. | .exportDeclaration | .exportNamed .. | .exportAll ..
  | .exportDefaultDeclaration | .exportDefaultExpression | .importEquals .. | .exportAssignment
  | .exportAsNamespace .. => true
  | _ => false

end Form

/-- Whether a node can be an item of a program of this kind. -/
def SourceKind.admits (kind : SourceKind) : Node → Bool
  | .node _ form _ => form.isStatement || (kind == .module && form.isModuleDeclaration)
  | _ => false

def SourceKind.ofText? : String → Option SourceKind
  | "Module" => some .module
  | "Script" => some .script
  | _ => none

/-- Reads a program; each item of its body must be a statement or, in a module, a declaration. The
command of its first line may be left out. -/
def Program.ofJson? (j : Json) : Option Program := do
  let kind ← SourceKind.ofText? (← j.text? "type")
  let span ← j.spanAt? "span"
  let body ← Node.ofItems? (← (← j.field? "body").array?)
  guard (body.all kind.admits)
  let interpreter ← ((j.field? "interpreter").getD .null).optional? Json.string?
  return ⟨kind,span,body,interpreter⟩

end AsyncBody
