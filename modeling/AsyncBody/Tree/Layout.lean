import AsyncBody.Tree.Basic

/-!
How a form is laid out as a data object: the name of its type, its own data, and a field for each
of its parts. A part that is `inlined` has no object of its own; its fields stand among those of the
form that holds it.
-/
namespace AsyncBody

namespace Span

def toJson (s : Span) : Json := .object [("start", .nat s.start), ("end", .nat s.stop)]

def ofJson? (j : Json) : Option Span := do
  let start ← (← j.field? "start").nat?
  let stop ← (← j.field? "end").nat?
  return ⟨start,stop⟩

end Span

def Ident.toJson (id : Ident) : Json :=
  .object [("type", .string "Identifier"), ("span", id.span.toJson), ("ctxt", .nat id.ctxt),
    ("value", .string id.name), ("optional", .bool id.optional)]

def StringLiteral.toJson (s : StringLiteral) : Json :=
  .object [("type", .string "StringLiteral"), ("span", s.span.toJson), ("value", .string s.value),
    ("raw", .ofOption .string s.raw)]

def ExportName.toJson : ExportName → Json
  | .ident name => name.toJson
  | .string name => name.toJson

def ModuleName.toJson : ModuleName → Json
  | .ident name => name.toJson
  | .string name => name.toJson

def ImportSpecifier.toJson : ImportSpecifier → Json
  | .named span bound imported typeOnly =>
    .object [("type", .string "ImportSpecifier"), ("span", span.toJson), ("local", bound.toJson),
      ("imported", .ofOption ExportName.toJson imported), ("isTypeOnly", .bool typeOnly)]
  | .default span bound =>
    .object [("type", .string "ImportDefaultSpecifier"), ("span", span.toJson),
      ("local", bound.toJson)]
  | .whole span bound =>
    .object [("type", .string "ImportNamespaceSpecifier"), ("span", span.toJson),
      ("local", bound.toJson)]

def ExportSpecifier.toJson : ExportSpecifier → Json
  | .named span inner exported typeOnly =>
    .object [("type", .string "ExportSpecifier"), ("span", span.toJson),
      ("orig", inner.toJson), ("exported", .ofOption ExportName.toJson exported),
      ("isTypeOnly", .bool typeOnly)]
  | .default exported =>
    .object [("type", .string "ExportDefaultSpecifier"), ("exported", exported.toJson)]
  | .whole span exported =>
    .object [("type", .string "ExportNamespaceSpecifier"), ("span", span.toJson),
      ("name", exported.toJson)]

def ImportPhase.text : ImportPhase → String
  | .evaluation => "evaluation"
  | .source => "source"
  | .defer => "defer"

def MetaKind.text : MetaKind → String
  | .importMeta => "import.meta"
  | .newTarget => "new.target"

def VariableKind.text : VariableKind → String
  | .var => "var"
  | .lexical => "let"
  | .const => "const"

def MethodKind.text : MethodKind → String
  | .method => "method"
  | .getter => "getter"
  | .setter => "setter"

inductive Part where
  | field (name : String)
  | inlined
deriving DecidableEq, Repr

/-- An untyped layout belongs to an object that states no type. -/
structure Layout where
  kind : Option String
  spanned : Bool
  attributes : List (String × Json)
  parts : List Part

namespace Layout

def typed (kind : String) (attributes : List (String × Json)) (parts : List String) : Layout :=
  ⟨some kind,true,attributes,parts.map .field⟩

def plain (kind : String) (parts : List String) : Layout := typed kind [] parts

def spanless (kind : String) (attributes : List (String × Json)) (parts : List Part) : Layout :=
  ⟨some kind,false,attributes,parts⟩

def untyped (spanned : Bool) (attributes : List (String × Json)) (parts : List String) : Layout :=
  ⟨none,spanned,attributes,parts.map .field⟩

end Layout

namespace Modifiers

def methodFields (m : Modifiers) : List (String × Json) :=
  [("isStatic", .bool m.isStatic), ("accessibility", .ofOption .string m.accessibility),
    ("isAbstract", .bool m.isAbstract), ("isOptional", .bool m.isOptional),
    ("isOverride", .bool m.isOverride)]

def accessorFields (m : Modifiers) : List (String × Json) :=
  [("isStatic", .bool m.isStatic), ("accessibility", .ofOption .string m.accessibility),
    ("isAbstract", .bool m.isAbstract), ("isOverride", .bool m.isOverride),
    ("definite", .bool m.definite)]

def privateFields (m : Modifiers) : List (String × Json) :=
  [("isStatic", .bool m.isStatic), ("accessibility", .ofOption .string m.accessibility),
    ("isOptional", .bool m.isOptional), ("isOverride", .bool m.isOverride),
    ("readonly", .bool m.readonly), ("definite", .bool m.definite)]

def propertyFields (m : Modifiers) : List (String × Json) :=
  m.methodFields ++ [("readonly", .bool m.readonly), ("declare", .bool m.declare),
    ("definite", .bool m.definite)]

end Modifiers

namespace Form

def functionParts : List String :=
  ["params", "decorators", "body", "typeParameters", "returnType"]

def classParts : List String :=
  ["decorators", "body", "superClass", "typeParams", "superTypeParams", "implements"]

open Layout in
/-- The layout of each form, its parts in visiting order. -/
def layout : Form → Layout
  | .ident ctxt name optional =>
    typed "Identifier" [("ctxt", .nat ctxt), ("value", .string name), ("optional", .bool optional)]
      []
  | .propertyName name => typed "Identifier" [("value", .string name)] []
  | .privateName name => typed "PrivateName" [("value", .string name)] []
  | .string value raw =>
    typed "StringLiteral" [("value", .string value), ("raw", .ofOption .string raw)] []
  | .number value raw =>
    typed "NumericLiteral" [("value", .number value), ("raw", .ofOption .string raw)] []
  | .bigint raw => typed "BigIntLiteral" [("raw", .string raw)] []
  | .boolean value => typed "BooleanLiteral" [("value", .bool value)] []
  | .nullLiteral => plain "NullLiteral" []
  | .regex pattern flags =>
    typed "RegExpLiteral" [("pattern", .string pattern), ("flags", .string flags)] []
  | .this => plain "ThisExpression" []
  | .super => plain "Super" []
  | .invalid => plain "Invalid" []
  | .importKeyword phase => typed "Import" [("phase", .string phase.text)] []
  | .metaProperty kind => typed "MetaProperty" [("kind", .string kind.text)] []
  | .array => plain "ArrayExpression" ["elements"]
  | .argument dots => untyped false [("spread", .ofOption Span.toJson dots)] ["expression"]
  | .object => plain "ObjectExpression" ["properties"]
  | .keyValue => spanless "KeyValueProperty" [] [.field "key", .field "value"]
  | .spread dots => spanless "SpreadElement" [("spread", dots.toJson)] [.field "arguments"]
  | .method => spanless "MethodProperty" [] [.field "key", .inlined]
  | .getter => plain "GetterProperty" ["key", "typeAnnotation", "body"]
  | .setter => plain "SetterProperty" ["key", "thisParam", "param", "body"]
  | .computed => plain "Computed" ["expression"]
  | .function ctxt generator async =>
    untyped true [("ctxt", .nat ctxt), ("generator", .bool generator), ("async", .bool async)]
      functionParts
  | .functionExpression name =>
    spanless "FunctionExpression" [("identifier", .ofOption Ident.toJson name)] [.inlined]
  | .arrow ctxt async generator =>
    typed "ArrowFunctionExpression"
      [("ctxt", .nat ctxt), ("async", .bool async), ("generator", .bool generator)]
      ["params", "body", "typeParameters", "returnType"]
  | .classBody ctxt isAbstract =>
    untyped true [("ctxt", .nat ctxt), ("isAbstract", .bool isAbstract)] classParts
  | .classExpression name =>
    spanless "ClassExpression" [("identifier", .ofOption Ident.toJson name)] [.inlined]
  | .call ctxt =>
    typed "CallExpression" [("ctxt", .nat ctxt)] ["callee", "arguments", "typeArguments"]
  | .new ctxt =>
    typed "NewExpression" [("ctxt", .nat ctxt)] ["callee", "arguments", "typeArguments"]
  | .member => plain "MemberExpression" ["object", "property"]
  | .superProperty => plain "SuperPropExpression" ["obj", "property"]
  | .optionalChain optional =>
    typed "OptionalChainingExpression" [("optional", .bool optional)] ["base"]
  | .unary operator => typed "UnaryExpression" [("operator", .string operator)] ["argument"]
  | .update operator before =>
    typed "UpdateExpression" [("operator", .string operator), ("prefix", .bool before)] ["argument"]
  | .binary operator => typed "BinaryExpression" [("operator", .string operator)] ["left", "right"]
  | .assignment operator =>
    typed "AssignmentExpression" [("operator", .string operator)] ["left", "right"]
  | .conditional => plain "ConditionalExpression" ["test", "consequent", "alternate"]
  | .sequence => plain "SequenceExpression" ["expressions"]
  | .yield delegate => typed "YieldExpression" [("delegate", .bool delegate)] ["argument"]
  | .await => plain "AwaitExpression" ["argument"]
  | .parenthesis => plain "ParenthesisExpression" ["expression"]
  | .template => plain "TemplateLiteral" ["expressions", "quasis"]
  | .templateElement tail cooked raw =>
    typed "TemplateElement"
      [("tail", .bool tail), ("cooked", .ofOption .string cooked), ("raw", .string raw)] []
  | .taggedTemplate ctxt =>
    typed "TaggedTemplateExpression" [("ctxt", .nat ctxt)] ["tag", "typeParameters", "template"]
  | .asExpression => plain "TsAsExpression" ["expression", "typeAnnotation"]
  | .satisfiesExpression => plain "TsSatisfiesExpression" ["expression", "typeAnnotation"]
  | .typeAssertion => plain "TsTypeAssertion" ["expression", "typeAnnotation"]
  | .constAssertion => plain "TsConstAssertion" ["expression"]
  | .nonNull => plain "TsNonNullExpression" ["expression"]
  | .instantiation => plain "TsInstantiation" ["expression", "typeArguments"]
  | .heritage => plain "TsExpressionWithTypeArguments" ["expression", "typeArguments"]
  | .element => plain "JSXElement" ["opening", "children", "closing"]
  | .openingElement selfClosing =>
    typed "JSXOpeningElement" [("selfClosing", .bool selfClosing)]
      ["name", "attributes", "typeArguments"]
  | .closingElement => plain "JSXClosingElement" ["name"]
  | .fragment => plain "JSXFragment" ["opening", "children", "closing"]
  | .openingFragment => plain "JSXOpeningFragment" []
  | .closingFragment => plain "JSXClosingFragment" []
  | .markupAttribute => plain "JSXAttribute" ["name", "value"]
  | .expressionContainer => plain "JSXExpressionContainer" ["expression"]
  | .emptyExpression => plain "JSXEmptyExpression" []
  | .spreadChild => plain "JSXSpreadChild" ["expression"]
  | .markupText value raw => typed "JSXText" [("value", .string value), ("raw", .string raw)] []
  | .markupMember => plain "JSXMemberExpression" ["object", "property"]
  | .markupNamespacedName => plain "JSXNamespacedName" ["namespace", "name"]
  | .binding ctxt name optional =>
    typed "Identifier" [("ctxt", .nat ctxt), ("value", .string name), ("optional", .bool optional)]
      ["typeAnnotation"]
  | .arrayPattern optional =>
    typed "ArrayPattern" [("optional", .bool optional)] ["elements", "typeAnnotation"]
  | .objectPattern optional =>
    typed "ObjectPattern" [("optional", .bool optional)] ["properties", "typeAnnotation"]
  | .restElement dots => typed "RestElement" [("rest", dots.toJson)] ["argument", "typeAnnotation"]
  | .assignmentPattern => plain "AssignmentPattern" ["left", "right"]
  | .keyValuePattern => spanless "KeyValuePatternProperty" [] [.field "key", .field "value"]
  | .shorthandPattern => plain "AssignmentPatternProperty" ["key", "value"]
  | .parameter => plain "Parameter" ["decorators", "pat"]
  | .parameterProperty accessibility override readonly =>
    typed "TsParameterProperty"
      [("accessibility", .ofOption .string accessibility), ("override", .bool override),
        ("readonly", .bool readonly)] ["decorators", "param"]
  | .decorator => plain "Decorator" ["expression"]
  | .classMethod kind modifiers =>
    typed "ClassMethod" (("kind", .string kind.text) :: modifiers.methodFields) ["key", "function"]
  | .privateMethod kind modifiers =>
    typed "PrivateMethod" (("kind", .string kind.text) :: modifiers.methodFields)
      ["key", "function"]
  | .classProperty modifiers =>
    typed "ClassProperty" modifiers.propertyFields ["key", "value", "typeAnnotation", "decorators"]
  | .privateProperty ctxt modifiers =>
    typed "PrivateProperty" (("ctxt", .nat ctxt) :: modifiers.privateFields)
      ["key", "value", "typeAnnotation", "decorators"]
  | .autoAccessor modifiers =>
    typed "AutoAccessor" modifiers.accessorFields ["key", "value", "typeAnnotation", "decorators"]
  | .constructor ctxt accessibility isOptional =>
    typed "Constructor"
      [("ctxt", .nat ctxt), ("accessibility", .ofOption .string accessibility),
        ("isOptional", .bool isOptional)] ["key", "params", "body"]
  | .staticBlock => plain "StaticBlock" ["body"]
  | .block ctxt => typed "BlockStatement" [("ctxt", .nat ctxt)] ["stmts"]
  | .empty => plain "EmptyStatement" []
  | .debugger => plain "DebuggerStatement" []
  | .expressionStatement => plain "ExpressionStatement" ["expression"]
  | .returnStatement => plain "ReturnStatement" ["argument"]
  | .throwStatement => plain "ThrowStatement" ["argument"]
  | .labeled => plain "LabeledStatement" ["label", "body"]
  | .breakStatement => plain "BreakStatement" ["label"]
  | .continueStatement => plain "ContinueStatement" ["label"]
  | .ifStatement => plain "IfStatement" ["test", "consequent", "alternate"]
  | .switchStatement => plain "SwitchStatement" ["discriminant", "cases"]
  | .switchCase => plain "SwitchCase" ["test", "consequent"]
  | .tryStatement => plain "TryStatement" ["block", "handler", "finalizer"]
  | .catchClause => plain "CatchClause" ["param", "body"]
  | .whileStatement => plain "WhileStatement" ["test", "body"]
  | .doWhileStatement => plain "DoWhileStatement" ["test", "body"]
  | .forStatement => plain "ForStatement" ["init", "test", "update", "body"]
  | .forInStatement => plain "ForInStatement" ["left", "right", "body"]
  | .forOfStatement isAwait =>
    typed "ForOfStatement" [("await", .bool isAwait)] ["left", "right", "body"]
  | .withStatement => plain "WithStatement" ["object", "body"]
  | .variableDeclaration ctxt kind declare =>
    typed "VariableDeclaration"
      [("ctxt", .nat ctxt), ("kind", .string kind.text), ("declare", .bool declare)]
      ["declarations"]
  | .declarator definite => typed "VariableDeclarator" [("definite", .bool definite)] ["id", "init"]
  | .usingDeclaration isAwait => typed "UsingDeclaration" [("isAwait", .bool isAwait)] ["decls"]
  | .functionDeclaration name declare =>
    spanless "FunctionDeclaration" [("identifier", name.toJson), ("declare", .bool declare)]
      [.inlined]
  | .classDeclaration name declare =>
    spanless "ClassDeclaration" [("identifier", name.toJson), ("declare", .bool declare)] [.inlined]
  | .enumDeclaration declare isConst name =>
    typed "TsEnumDeclaration"
      [("declare", .bool declare), ("isConst", .bool isConst), ("id", name.toJson)] ["members"]
  | .enumMember => plain "TsEnumMember" ["id", "init"]
  | .moduleDeclaration declare global isNamespace name =>
    typed "TsModuleDeclaration"
      [("declare", .bool declare), ("global", .bool global), ("namespace", .bool isNamespace),
        ("id", name.toJson)] ["body"]
  | .moduleBlock => plain "TsModuleBlock" ["body"]
  | .namespaceDeclaration declare global name =>
    typed "TsNamespaceDeclaration"
      [("declare", .bool declare), ("global", .bool global), ("id", name.toJson)] ["body"]
  | .interfaceDeclaration name declare =>
    typed "TsInterfaceDeclaration" [("id", name.toJson), ("declare", .bool declare)]
      ["typeParams", "extends", "body"]
  | .interfaceBody => plain "TsInterfaceBody" ["body"]
  | .typeAlias declare name =>
    typed "TsTypeAliasDeclaration" [("declare", .bool declare), ("id", name.toJson)]
      ["typeParams", "typeAnnotation"]
  | .importDeclaration specifiers source typeOnly phase =>
    typed "ImportDeclaration"
      [("specifiers", .array (specifiers.map ImportSpecifier.toJson)), ("source", source.toJson),
        ("typeOnly", .bool typeOnly), ("phase", .string phase.text)] ["with"]
  | .exportDeclaration => plain "ExportDeclaration" ["declaration"]
  | .exportNamed specifiers source typeOnly =>
    typed "ExportNamedDeclaration"
      [("specifiers", .array (specifiers.map ExportSpecifier.toJson)),
        ("source", .ofOption StringLiteral.toJson source), ("typeOnly", .bool typeOnly)] ["with"]
  | .exportAll source typeOnly =>
    typed "ExportAllDeclaration" [("source", source.toJson), ("typeOnly", .bool typeOnly)] ["with"]
  | .exportDefaultDeclaration => plain "ExportDefaultDeclaration" ["decl"]
  | .exportDefaultExpression => plain "ExportDefaultExpression" ["expression"]
  | .importEquals isExport typeOnly name =>
    typed "TsImportEqualsDeclaration"
      [("isExport", .bool isExport), ("isTypeOnly", .bool typeOnly), ("id", name.toJson)]
      ["moduleRef"]
  | .qualifiedName => plain "TsQualifiedName" ["left", "right"]
  | .externalModule source => typed "TsExternalModuleReference" [("expression", source.toJson)] []
  | .exportAssignment => plain "TsExportAssignment" ["expression"]
  | .exportAsNamespace name => typed "TsNamespaceExportDeclaration" [("id", name.toJson)] []
  | .ascription => plain "TsTypeAnnotation" ["typeAnnotation"]
  | .keywordType kind => typed "TsKeywordType" [("kind", .string kind)] []
  | .thisType => plain "TsThisType" []
  | .typeReference => plain "TsTypeReference" ["typeName", "typeParams"]
  | .arrayType => plain "TsArrayType" ["elemType"]
  | .unionType => plain "TsUnionType" ["types"]
  | .intersectionType => plain "TsIntersectionType" ["types"]
  | .parenthesizedType => plain "TsParenthesizedType" ["typeAnnotation"]
  | .literalType => plain "TsLiteralType" ["literal"]
  | .tupleType => plain "TsTupleType" ["elemTypes"]
  | .tupleElement => plain "TsTupleElement" ["label", "ty"]
  | .optionalType => plain "TsOptionalType" ["typeAnnotation"]
  | .restType => plain "TsRestType" ["typeAnnotation"]
  | .typeLiteral => plain "TsTypeLiteral" ["members"]
  | .propertySignature readonly isComputed optional =>
    typed "TsPropertySignature"
      [("readonly", .bool readonly), ("computed", .bool isComputed), ("optional", .bool optional)]
      ["key", "typeAnnotation"]
  | .methodSignature isComputed optional =>
    typed "TsMethodSignature" [("computed", .bool isComputed), ("optional", .bool optional)]
      ["key", "params", "typeAnn", "typeParams"]
  | .indexSignature readonly isStatic =>
    typed "TsIndexSignature" [("readonly", .bool readonly), ("static", .bool isStatic)]
      ["params", "typeAnnotation"]
  | .callSignature =>
    plain "TsCallSignatureDeclaration" ["params", "typeAnnotation", "typeParams"]
  | .constructSignature =>
    plain "TsConstructSignatureDeclaration" ["params", "typeAnnotation", "typeParams"]
  | .functionType => plain "TsFunctionType" ["params", "typeParams", "typeAnnotation"]
  | .constructorType isAbstract =>
    typed "TsConstructorType" [("isAbstract", .bool isAbstract)]
      ["params", "typeParams", "typeAnnotation"]
  | .typePredicate asserts =>
    typed "TsTypePredicate" [("asserts", .bool asserts)] ["paramName", "typeAnnotation"]
  | .inferType => plain "TsInferType" ["typeParam"]
  | .typeParameters => plain "TsTypeParameterDeclaration" ["parameters"]
  | .typeParameter isIn isOut isConst =>
    typed "TsTypeParameter" [("in", .bool isIn), ("out", .bool isOut), ("const", .bool isConst)]
      ["name", "constraint", "default"]
  | .typeArguments => plain "TsTypeParameterInstantiation" ["params"]
  | .typeQuery => plain "TsTypeQuery" ["exprName", "typeArguments"]
  | .typeOperator operator => typed "TsTypeOperator" [("op", .string operator)] ["typeAnnotation"]
  | .indexedAccess readonly =>
    typed "TsIndexedAccessType" [("readonly", .bool readonly)] ["objectType", "indexType"]
  | .importType =>
    plain "TsImportType" ["argument", "qualifier", "typeArguments", "attributes"]
  | .importOptions => plain "TsImportCallOptions" ["with"]
  | .conditionalType =>
    plain "TsConditionalType" ["checkType", "extendsType", "trueType", "falseType"]
  | .other kind attributes parts => spanless kind attributes (parts.map .field)

end Form

namespace Json

def fields : Json → List (String × Json)
  | .object fields => fields
  | _ => []

/-- The fields that parts add to an object, each under its name; an inlined part adds its own. -/
def partFields : List Part → List Json → List (String × Json)
  | .field name :: parts, j :: rest => (name, j) :: partFields parts rest
  | .inlined :: parts, j :: rest => j.fields ++ partFields parts rest
  | _, _ => []

end Json

def Layout.toJson (l : Layout) (span : Span) (parts : List Json) : Json :=
  let kind := l.kind.toList.map fun k => ("type", Json.string k)
  let place := if l.spanned then [("span", span.toJson)] else []
  .object (kind ++ place ++ l.attributes ++ Json.partFields l.parts parts)

namespace Node

mutual

def toJson : Node → Json
  | .absent => .null
  | .many items => .array (toJsonAll items)
  | .node span form parts => form.layout.toJson span (toJsonAll parts)

def toJsonAll : List Node → List Json
  | [] => []
  | item :: rest => toJson item :: toJsonAll rest

end

end Node

def SourceKind.text : SourceKind → String
  | .module => "Module"
  | .script => "Script"

def Program.toJson (p : Program) : Json :=
  .object [("type", .string p.kind.text), ("span", p.span.toJson),
    ("body", .array (Node.toJsonAll p.body)), ("interpreter", .ofOption .string p.interpreter)]

namespace Json

def nestingIndent (depth : Nat) : String := String.ofList (List.replicate (4 * depth) ' ')

/-- Entries between brackets, each on a line of its own that ends in a comma. -/
def outlined (opening closing : String) (depth : Nat) : List String → String
  | [] => opening ++ closing
  | entries =>
    let line (entry : String) : String := nestingIndent (depth + 1) ++ entry ++ ",\n"
    opening ++ "\n" ++ String.join (entries.map line) ++ nestingIndent depth ++ closing

mutual

def outline (depth : Nat) : Json → String
  | .null => "None"
  | .bool b => if b then "true" else "false"
  | .number d => decimalText d
  | .string s => quote s
  | .array items => outlined "[" "]" depth (outlineItems (depth + 1) items)
  | .object fields =>
    let entries := outlineFields (depth + 1) fields
    match fields with
    | [("start", .number first), ("end", .number last)] =>
      decimalText first ++ ".." ++ decimalText last
    | ("type", .string name) :: _ => outlined (name ++ " \x7b") "\x7d" depth (entries.drop 1)
    | _ => outlined "\x7b" "\x7d" depth entries

def outlineItems (depth : Nat) : List Json → List String
  | [] => []
  | item :: rest => outline depth item :: outlineItems depth rest

def outlineFields (depth : Nat) : List (String × Json) → List String
  | [] => []
  | (name, value) :: rest => (name ++ ": " ++ outline depth value) :: outlineFields depth rest

end

end Json

/-- The kind of the program, around an object with its span, its body and its shebang line. -/
def Program.outline (p : Program) : String :=
  let name := p.kind.text
  let record := Json.object [("type", .string name), ("span", p.span.toJson),
    ("body", .array (Node.toJsonAll p.body)), ("shebang", .ofOption .string p.interpreter)]
  Json.outlined (name ++ "(") ")" 0 [record.outline 1]

end AsyncBody
