import AsyncBody.Json

/-!
Syntax trees of programs. A node is a form, its place in the source and its parts, in the order in
which they are visited; a part that is left out is `absent`, and a part that is a list is `many`.
What a form says beside its parts (names that it declares, flags, spellings) it holds itself.
-/
namespace AsyncBody

/-- Byte positions in a source, counted from one. -/
structure Span where
  start : Nat
  stop : Nat
deriving DecidableEq, Repr

/-- The place of what stands nowhere in a source. -/
def Span.nowhere : Span := ⟨0,0⟩

def Span.text (s : Span) : String := toString s.start ++ ".." ++ toString s.stop

structure Ident where
  span : Span
  ctxt : Nat
  name : String
  optional : Bool
deriving DecidableEq, Repr

/-- An identifier that the source does not hold, placed at `span`. -/
def Ident.named (name : String) (span : Span) : Ident := ⟨span,0,name,false⟩

/-- A string literal; `raw` is its spelling in the source. -/
structure StringLiteral where
  span : Span
  value : String
  raw : Option String
deriving DecidableEq, Repr

def StringLiteral.plain (value : String) (span : Span) : StringLiteral := ⟨span,value,none⟩

/-- The name of an export: an identifier or any string. -/
inductive ExportName where
  | ident (name : Ident)
  | string (name : StringLiteral)
deriving DecidableEq, Repr

def ExportName.text : ExportName → String
  | .ident name => name.name
  | .string name => name.value

inductive ImportSpecifier where
  | named (span : Span) (bound : Ident) (imported : Option ExportName) (typeOnly : Bool)
  | default (span : Span) (bound : Ident)
  | whole (span : Span) (bound : Ident)
deriving DecidableEq, Repr

def ImportSpecifier.bound : ImportSpecifier → Ident
  | .named _ bound _ _ => bound
  | .default _ bound => bound
  | .whole _ bound => bound

inductive ExportSpecifier where
  | named (span : Span) (inner : ExportName) (exported : Option ExportName) (typeOnly : Bool)
  | default (exported : Ident)
  | whole (span : Span) (exported : ExportName)
deriving DecidableEq, Repr

inductive ImportPhase where
  | evaluation
  | source
  | defer
deriving DecidableEq, Repr

inductive MetaKind where
  | importMeta
  | newTarget
deriving DecidableEq, Repr

inductive VariableKind where
  | var
  | lexical
  | const
deriving DecidableEq, Repr

inductive MethodKind where
  | method
  | getter
  | setter
deriving DecidableEq, Repr

/-- The name of a namespace, or the string that names a foreign module. -/
inductive ModuleName where
  | ident (name : Ident)
  | string (name : StringLiteral)
deriving DecidableEq, Repr

/-- The modifiers of a class member. -/
structure Modifiers where
  isStatic : Bool := false
  accessibility : Option String := none
  isAbstract : Bool := false
  isOptional : Bool := false
  isOverride : Bool := false
  readonly : Bool := false
  declare : Bool := false
  definite : Bool := false
deriving DecidableEq, Repr

inductive Form where
  -- names and literals
  | ident (ctxt : Nat) (name : String) (optional : Bool)
  | propertyName (name : String)
  | privateName (name : String)
  | string (value : String) (raw : Option String)
  | number (value : Decimal) (raw : Option String)
  | bigint (raw : String)
  | boolean (value : Bool)
  | nullLiteral
  | regex (pattern flags : String)
  -- expressions
  | this
  | super
  | invalid
  | importKeyword (phase : ImportPhase)
  | metaProperty (kind : MetaKind)
  | array
  | argument (dots : Option Span)
  | object
  | keyValue
  | spread (dots : Span)
  | method
  | getter
  | setter
  | computed
  | function (ctxt : Nat) (generator async : Bool)
  | functionExpression (name : Option Ident)
  | arrow (ctxt : Nat) (async generator : Bool)
  | classBody (ctxt : Nat) (isAbstract : Bool)
  | classExpression (name : Option Ident)
  | call (ctxt : Nat)
  | new (ctxt : Nat)
  | member
  | superProperty
  | optionalChain (optional : Bool)
  | unary (operator : String)
  | update (operator : String) (before : Bool)
  | binary (operator : String)
  | assignment (operator : String)
  | conditional
  | sequence
  | yield (delegate : Bool)
  | await
  | parenthesis
  | template
  | templateElement (tail : Bool) (cooked : Option String) (raw : String)
  | taggedTemplate (ctxt : Nat)
  | asExpression
  | satisfiesExpression
  | typeAssertion
  | constAssertion
  | nonNull
  | instantiation
  | heritage
  -- markup
  | element
  | openingElement (selfClosing : Bool)
  | closingElement
  | fragment
  | openingFragment
  | closingFragment
  | markupAttribute
  | expressionContainer
  | emptyExpression
  | spreadChild
  | markupText (value raw : String)
  | markupMember
  | markupNamespacedName
  -- patterns and parameters
  | binding (ctxt : Nat) (name : String) (optional : Bool)
  | arrayPattern (optional : Bool)
  | objectPattern (optional : Bool)
  | restElement (dots : Span)
  | assignmentPattern
  | keyValuePattern
  | shorthandPattern
  | parameter
  | parameterProperty (accessibility : Option String) (override readonly : Bool)
  | decorator
  -- class members
  | classMethod (kind : MethodKind) (modifiers : Modifiers)
  | privateMethod (kind : MethodKind) (modifiers : Modifiers)
  | classProperty (modifiers : Modifiers)
  | privateProperty (ctxt : Nat) (modifiers : Modifiers)
  | autoAccessor (modifiers : Modifiers)
  | constructor (ctxt : Nat) (accessibility : Option String) (isOptional : Bool)
  | staticBlock
  -- statements
  | block (ctxt : Nat)
  | empty
  | debugger
  | expressionStatement
  | returnStatement
  | throwStatement
  | labeled
  | breakStatement
  | continueStatement
  | ifStatement
  | switchStatement
  | switchCase
  | tryStatement
  | catchClause
  | whileStatement
  | doWhileStatement
  | forStatement
  | forInStatement
  | forOfStatement (isAwait : Bool)
  | withStatement
  -- declarations
  | variableDeclaration (ctxt : Nat) (kind : VariableKind) (declare : Bool)
  | declarator (definite : Bool)
  | usingDeclaration (isAwait : Bool)
  | functionDeclaration (name : Ident) (declare : Bool)
  | classDeclaration (name : Ident) (declare : Bool)
  | enumDeclaration (declare isConst : Bool) (name : Ident)
  | enumMember
  | moduleDeclaration (declare global isNamespace : Bool) (name : ModuleName)
  | moduleBlock
  | namespaceDeclaration (declare global : Bool) (name : Ident)
  | interfaceDeclaration (name : Ident) (declare : Bool)
  | interfaceBody
  | typeAlias (declare : Bool) (name : Ident)
  -- imports and exports
  | importDeclaration (specifiers : List ImportSpecifier) (source : StringLiteral)
      (typeOnly : Bool) (phase : ImportPhase)
  | exportDeclaration
  | exportNamed (specifiers : List ExportSpecifier) (source : Option StringLiteral)
      (typeOnly : Bool)
  | exportAll (source : StringLiteral) (typeOnly : Bool)
  | exportDefaultDeclaration
  | exportDefaultExpression
  | importEquals (isExport typeOnly : Bool) (name : Ident)
  | qualifiedName
  | externalModule (source : StringLiteral)
  | exportAssignment
  | exportAsNamespace (name : Ident)
  -- types
  | ascription
  | keywordType (kind : String)
  | thisType
  | typeReference
  | arrayType
  | unionType
  | intersectionType
  | parenthesizedType
  | literalType
  | tupleType
  | tupleElement
  | optionalType
  | restType
  | typeLiteral
  | propertySignature (readonly isComputed optional : Bool)
  | methodSignature (isComputed optional : Bool)
  | indexSignature (readonly isStatic : Bool)
  | callSignature
  | constructSignature
  | functionType
  | constructorType (isAbstract : Bool)
  | typePredicate (asserts : Bool)
  | inferType
  | typeParameters
  | typeParameter (isIn isOut isConst : Bool)
  | typeArguments
  | typeQuery
  | typeOperator (operator : String)
  | indexedAccess (readonly : Bool)
  | conditionalType
  | importType
  | importOptions
  /-- A form of another kind, kept as it is: its name, its own data and the names of its parts. -/
  | other (kind : String) (attributes : List (String × Json)) (parts : List String)

inductive Node where
  | absent
  | many (items : List Node)
  | node (span : Span) (form : Form) (parts : List Node)

instance : Inhabited Node := ⟨.absent⟩

namespace Node

def items : Node → List Node
  | .many items => items
  | _ => []

def isPresent : Node → Bool
  | .absent => false
  | _ => true

def span : Node → Span
  | .node span _ _ => span
  | _ => .nowhere

/-- A form without parts. -/
def leaf (span : Span) (form : Form) : Node := .node span form []

end Node

def Ident.reference (id : Ident) : Node :=
  .leaf id.span (.ident id.ctxt id.name id.optional)

def Ident.pattern (id : Ident) : Node :=
  .node id.span (.binding id.ctxt id.name id.optional) [.absent]

def StringLiteral.toNode (s : StringLiteral) : Node := .leaf s.span (.string s.value s.raw)

inductive SourceKind where
  | module
  | script
deriving DecidableEq, Repr

/-- A program; `interpreter` is the command of a first line that starts with `#!`. -/
structure Program where
  kind : SourceKind
  span : Span
  body : List Node
  interpreter : Option String

end AsyncBody
