import AsyncBody.Tree.Basic

/-!
The names that programs bind: by patterns, by declarations, by `var` declarations that hoist out of
nested statements, and at the top level of a whole program.
-/
namespace AsyncBody

namespace Node

mutual

/-- The identifiers that a pattern binds, in source order. -/
def boundIdents : Node → List Ident
  | .absent => []
  | .many items => boundIdentsAll items
  | .node span (.binding ctxt name optional) _ => [⟨span,ctxt,name,optional⟩]
  | .node _ (.arrayPattern _) (elements :: _) => boundIdents elements
  | .node _ (.objectPattern _) (properties :: _) => boundIdents properties
  | .node _ (.restElement _) (argument :: _) => boundIdents argument
  | .node _ .assignmentPattern (left :: _) => boundIdents left
  | .node _ .keyValuePattern [_, value] => boundIdents value
  | .node _ .shorthandPattern (key :: _) => boundIdents key
  | .node _ _ _ => []

def boundIdentsAll : List Node → List Ident
  | [] => []
  | item :: rest => boundIdents item ++ boundIdentsAll rest

end

def declaratorIdents : Node → List Ident
  | .node _ (.declarator _) (pattern :: _) => pattern.boundIdents
  | .many items => items.flatMap fun
    | .node _ (.declarator _) (pattern :: _) => pattern.boundIdents
    | _ => []
  | _ => []

/-- The identifiers that a declaration introduces beside types, in source order. -/
def declaredIdents : Node → List Ident
  | .node _ (.classDeclaration name _) _ => [name]
  | .node _ (.functionDeclaration name _) _ => [name]
  | .node _ (.variableDeclaration ..) [declarators] => declarators.declaratorIdents
  | .node _ (.usingDeclaration _) [declarators] => declarators.declaratorIdents
  | .node _ (.enumDeclaration _ _ name) _ => [name]
  | .node _ (.moduleDeclaration _ _ _ (.ident name)) _ => [name]
  | _ => []

mutual

/-- Whether an item leaves a value behind once types are erased. Ambient declarations do not, nor do
constant enumerations, which are inlined; a namespace does if something in its body does. -/
def leavesValue : Node → Bool
  | .absent => false
  | .many items => leavesValueAny items
  | .node _ (.classDeclaration _ declare) _ => ! declare
  | .node _ (.functionDeclaration _ declare) _ => ! declare
  | .node _ (.variableDeclaration _ _ declare) _ => ! declare
  | .node _ (.enumDeclaration declare isConst _) _ => ! declare && ! isConst
  | .node _ (.moduleDeclaration declare _ _ (.ident _)) [body] => ! declare && leavesValue body
  | .node _ (.moduleDeclaration ..) _ => false
  | .node _ (.namespaceDeclaration declare _ _) [body] => ! declare && leavesValue body
  | .node _ .moduleBlock [body] => leavesValue body
  | .node _ (.interfaceDeclaration ..) _ => false
  | .node _ (.typeAlias ..) _ => false
  | .node _ .exportDeclaration [declaration] => leavesValue declaration
  | .node _ (.importEquals _ typeOnly _) _ => ! typeOnly
  | .node _ _ _ => true

def leavesValueAny : List Node → Bool
  | [] => false
  | item :: rest => leavesValue item || leavesValueAny rest

end

end Node

namespace Form

def isExpression : Form → Bool
  | .ident .. | .privateName _ | .string .. | .number .. | .bigint _ | .boolean _ | .nullLiteral
  | .regex .. | .this | .super | .invalid | .metaProperty _ | .array | .object
  | .functionExpression _ | .arrow .. | .classExpression _ | .call _ | .new _ | .member
  | .superProperty | .optionalChain _ | .unary _ | .update .. | .binary _ | .assignment _
  | .conditional | .sequence | .yield _ | .await | .parenthesis | .template | .taggedTemplate _
  | .asExpression | .satisfiesExpression | .typeAssertion | .constAssertion | .nonNull
  | .instantiation | .element | .fragment | .emptyExpression | .markupMember
  | .markupNamespacedName => true
  | _ => false

/-- Expressions, functions, classes, namespaces and what stands only inside them. -/
def isClosed : Form → Bool
  | .functionDeclaration .. | .classDeclaration .. | .moduleDeclaration .. => true
  | .function .. | .classBody .. => true
  | .getter | .setter | .constructor .. | .staticBlock | .namespaceDeclaration .. | .moduleBlock =>
    true
  | form => form.isExpression

/-- The forms whose last part is an object of import attributes: an object, but no expression. -/
def holdsAttributes : Form → Bool
  | .importDeclaration .. | .exportNamed .. | .exportAll .. | .importOptions => true
  | _ => false

end Form

namespace Node

mutual

/-- Names of the `var` declarations that are taken to hoist to the scope around a node: those that
are found in it without entering an expression, function, class or namespace. -/
def collectedVars : Node → List String
  | .absent => []
  | .many items => collectedVarsAll items
  | .node _ (.variableDeclaration _ kind declare) parts =>
    if kind = .var ∧ ! declare then
      parts.flatMap fun part => part.declaratorIdents.map (·.name)
    else []
  | .node _ form parts =>
    if form.isClosed then []
    else if form.holdsAttributes then attributeVarsAll parts
    else collectedVarsAll parts

def collectedVarsAll : List Node → List String
  | [] => []
  | item :: rest => collectedVars item ++ collectedVarsAll rest

/-- The same for import attributes. The object itself is entered, and so are its accessors; its
other properties hold only expressions and functions. -/
def attributeVars : Node → List String
  | .absent => []
  | .many items => attributeVarsAll items
  | .node _ .object parts => attributeVarsAll parts
  | .node _ .getter parts => collectedVarsAll parts
  | .node _ .setter parts => collectedVarsAll parts
  | .node _ _ _ => []

def attributeVarsAll : List Node → List String
  | [] => []
  | item :: rest => attributeVars item ++ attributeVarsAll rest

end

/-- Names that a declaration binds at run time. -/
def valueNames (declaration : Node) : List String :=
  if declaration.leavesValue then declaration.declaredIdents.map (·.name) else []

def isDeclaration : Node → Bool
  | .node _ (.classDeclaration ..) _ | .node _ (.functionDeclaration ..) _
  | .node _ (.variableDeclaration ..) _ | .node _ (.usingDeclaration ..) _
  | .node _ (.enumDeclaration ..) _ | .node _ (.moduleDeclaration ..) _
  | .node _ (.interfaceDeclaration ..) _ | .node _ (.typeAlias ..) _ => true
  | _ => false

/-- Names that an item binds at the top level. The locals of imports count even if they are
types. -/
def itemNames : Node → List String
  | .node _ (.importDeclaration specifiers ..) _ => specifiers.map (·.bound.name)
  | .node _ .exportDeclaration [declaration] => declaration.valueNames
  | .node _ .exportDefaultDeclaration [.node _ (.classExpression name) _] =>
    name.toList.map (·.name)
  | .node _ .exportDefaultDeclaration [.node _ (.functionExpression name) _] =>
    name.toList.map (·.name)
  | .node _ (.importEquals _ _ name) _ => [name.name]
  | item => if item.isDeclaration then item.valueNames else []

end Node

/-- Names bound at the top level of a program, hoisted ones included. -/
def Program.topLevelNames (p : Program) : List String :=
  Node.collectedVarsAll p.body ++ p.body.flatMap Node.itemNames

end AsyncBody
