import AsyncBody.FreshName

/-!
The statements that a lowering makes: the one that loads a module through the hook, `await
hook(source)`, and binds what is read from the module object, and the `return` of the exports.
-/
namespace AsyncBody

/-- One name bound from a module object: the object itself, or a property of a pattern. -/
inductive Loaded where
  | whole (bound : Ident)
  | property (pattern : Node)

namespace Loaded

def keyed (key : Node) (bound : Ident) : Loaded :=
  .property (.node .nowhere .keyValuePattern [key, bound.pattern])

def shorthand (bound : Ident) : Loaded :=
  .property (.node bound.span .shorthandPattern [bound.pattern, .absent])

def default (bound : Ident) : Loaded :=
  keyed (.leaf bound.span (.propertyName "default")) bound

/-- The key under which a module object holds an export. -/
def key : ExportName → Node
  | .ident name => .leaf name.span (.propertyName name.name)
  | .string name => name.toNode

def named (imported : ExportName) (bound : Ident) : Loaded :=
  match imported with
  | .ident name => if name.name = bound.name then shorthand bound else keyed (key imported) bound
  | .string _ => keyed (key imported) bound

def rest (bound : Ident) : Loaded :=
  .property (.node bound.span (.restElement .nowhere) [bound.pattern, .absent])

def whole? : Loaded → Option Ident
  | .whole bound => some bound
  | .property _ => none

def property? : Loaded → Option Node
  | .whole _ => none
  | .property pattern => some pattern

end Loaded

/-- An import specifier binds a name unless it imports a type. -/
def ImportSpecifier.loaded : ImportSpecifier → Option Loaded
  | .named _ _ _ true => none
  | .named _ bound imported false => some (.named (imported.getD (.ident bound)) bound)
  | .default _ bound => some (.default bound)
  | .whole _ bound => some (.whole bound)

namespace Lowering

/-- What the hook is told of a module: its source and, if it has any, its attributes. -/
structure Request where
  source : StringLiteral
  attributes : Node

namespace Request

/-- The object `{ with: attributes }`. -/
def options (attributes : Node) : Node :=
  .node attributes.span .object
    [.many [.node .nowhere .keyValue [.leaf .nowhere (.propertyName "with"), attributes]]]

def arguments (r : Request) : List Node :=
  .node .nowhere (.argument none) [r.source.toNode] ::
    if r.attributes.isPresent then
      [.node .nowhere (.argument none) [options r.attributes]]
    else []

/-- The expression `await hook(source)`, with a second argument if there are attributes. -/
def load (r : Request) (hook : String) (span : Span) : Node :=
  .node span .await
    [.node span (.call 0) [(Ident.named hook span).reference, .many r.arguments, .absent]]

end Request

def declarator (pattern value : Node) : Node :=
  .node .nowhere (.declarator false) [pattern, value]

def constDeclaration (span : Span) (declarators : List Node) : Node :=
  .node span (.variableDeclaration 0 .const false) [.many declarators]

def objectPattern (span : Span) (properties : List Node) : Node :=
  .node span (.objectPattern false) [.many properties, .absent]

/-- The statement that loads a module and binds names from it. The module object is bound to the
last name for it as a whole, and properties are then read from that name. -/
def loadStatement (hook : String) (span : Span) (request : Request) (names : List Loaded) : Node :=
  let properties := names.filterMap Loaded.property?
  let value := request.load hook span
  match (names.filterMap Loaded.whole?).getLast?, properties with
  | none, [] => .node span .expressionStatement [value]
  | none, _ => constDeclaration span [declarator (objectPattern span properties) value]
  | some bound, [] => constDeclaration span [declarator bound.pattern value]
  | some bound, _ =>
    constDeclaration span
      [declarator bound.pattern value, declarator (objectPattern span properties) bound.reference]

end Lowering

/-- An entry of the export table: a local under its exported name, or all that a local holds. -/
inductive Export where
  | named (exported : ExportName) (value : Ident)
  | spread (value : Ident)
deriving DecidableEq, Repr

namespace Export

def own (value : Ident) : Export := .named (.ident value) value

def default (value : Ident) : Export := .named (.ident (.named "default" value.span)) value

def isSpread : Export → Bool
  | .spread _ => true
  | .named .. => false

def computedKey (key : StringLiteral) : Node := .node key.span .computed [key.toNode]

/-- A string is a computed key. So is `__proto__`, which as a plain key would set the prototype. -/
def key : ExportName → Node
  | .ident name =>
    if name.name = "__proto__" then computedKey (.plain name.name name.span)
    else .leaf name.span (.propertyName name.name)
  | .string name => computedKey name

/-- Whether an export is written as a shorthand property: its name is that of the local. -/
def isShorthand (exported : ExportName) (value : Ident) : Bool :=
  match exported with
  | .ident name => name.name != "__proto__" && name.name == value.name
  | .string _ => false

/-- The property of the returned object that an entry becomes. -/
def property : Export → Node
  | .spread value => .node .nowhere (.spread .nowhere) [value.reference]
  | .named exported value =>
    if isShorthand exported value then value.reference
    else .node .nowhere .keyValue [key exported, value.reference]

/-- Spreads come first, so that an explicit export wins over one of the same name. -/
def properties (table : List Export) : List Node :=
  (table.filter isSpread ++ table.filter (! isSpread ·)).map property

/-- The statement that returns the exports. -/
def returnStatement (span : Span) (table : List Export) : Node :=
  .node span .returnStatement [.node span .object [.many (properties table)]]

end Export

end AsyncBody
