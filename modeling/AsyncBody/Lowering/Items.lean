import AsyncBody.Bindings
import AsyncBody.Log
import AsyncBody.Lowering.Statements

/-!
The items of a module, one by one: each becomes at most one statement and adds its entries to the
export table.
-/
namespace AsyncBody.Lowering

/-- What an item becomes; `requests` counts the modules that its statement loads. -/
structure Lowered where
  statement : Option Node := none
  exports : List Export := []
  requests : Nat := 0
  events : List Event := []

abbrev Fresh := StateM NameSupply

/-- A fresh identifier for a base, at a place of the source. -/
def freshIdent (base : String) (span : Span) : Fresh Ident := fun supply =>
  let (name, supply) := supply.fresh base
  (.named name span, supply)

def Lowered.kept (statement : Node) : Lowered := { statement := some statement }

def Lowered.dropped (event : Event) : Lowered := { events := [event] }

/-- `import ... from source`. A list of specifiers that are all types is dropped, an empty one
is not. -/
def importDeclaration (hook : String) (span : Span) (specifiers : List ImportSpecifier)
    (request : Request) (typeOnly : Bool) : Lowered :=
  let source := request.source.value
  let names := specifiers.filterMap ImportSpecifier.loaded
  if typeOnly then .dropped (.typeImportDropped source)
  else if names.isEmpty && ! specifiers.isEmpty then .dropped (.typeSpecifiersDropped source)
  else
    { statement := some (loadStatement hook span request names)
      requests := 1
      events := [.importLoaded source] }

/-- `export declaration` exports every name that the declaration binds at run time. -/
def exportDeclaration (declaration : Node) : Lowered :=
  let names := if declaration.leavesValue then declaration.declaredIdents else []
  { statement := some declaration
    exports := names.map .own
    events := [.exportDeclared names.length] }

/-- The entry that a specifier of a local list adds. -/
def localExport : ExportSpecifier → Option Export
  | .named _ (.ident value) exported false => some (.named (exported.getD (.ident value)) value)
  | _ => none

/-- The base of the local that holds an export. -/
def baseOf : ExportName → String
  | .ident name => name.name
  | .string _ => "reexport"

/-- What a specifier with a source binds, and the entry that it adds; a type adds nothing. -/
def reexport (span : Span) : ExportSpecifier → Fresh (Option (Loaded × Export))
  | .named _ _ _ true => return none
  | .named _ inner exported false => do
    let exported := exported.getD inner
    let value ← freshIdent (baseOf exported) span
    return some (.named inner value, .named exported value)
  | .whole place exported => do
    let value ← freshIdent (baseOf exported) place
    return some (.whole value, .named exported value)
  | .default exported => do
    let value ← freshIdent exported.name exported.span
    return some (.default value, .named (.ident exported) value)

def reexports (span : Span) : List ExportSpecifier → Fresh (List (Loaded × Export))
  | [] => return []
  | specifier :: rest => do
    let first ← reexport span specifier
    let others ← reexports span rest
    return first.toList ++ others

/-- `export { ... } from source` loads the source into fresh locals and exports those. -/
def exportFrom (hook : String) (span : Span) (specifiers : List ExportSpecifier)
    (request : Request) : Fresh Lowered := do
  let source := request.source.value
  let names ← reexports span specifiers
  if names.isEmpty && ! specifiers.isEmpty then return .dropped (.typeReexportsDropped source)
  else
    return { statement := some (loadStatement hook span request (names.map (·.1)))
             exports := names.map (·.2)
             requests := 1
             events := [.reexportLoaded source] }

def exportNamed (hook : String) (span : Span) (specifiers : List ExportSpecifier)
    (source : Option StringLiteral) (typeOnly : Bool) (attributes : Node) : Fresh Lowered :=
  if typeOnly then return .dropped .typeExportDropped
  else
    match source with
    | none => return { exports := specifiers.filterMap localExport, events := [.localExports] }
    | some source => exportFrom hook span specifiers ⟨source,attributes⟩

/-- `export * from source` binds all but the default export. -/
def exportAll (hook : String) (span : Span) (request : Request) (typeOnly : Bool) :
    Fresh Lowered :=
  let source := request.source.value
  if typeOnly then return .dropped (.typeStarDropped source)
  else do
    let unused ← freshIdent "unused" span
    let rest ← freshIdent "exportAll" span
    return { statement := some (loadStatement hook span request [.default unused, .rest rest])
             exports := [.spread rest]
             requests := 1
             events := [.starLoaded source] }

/-- The name of a default export, a fresh one if it has none. -/
def defaultName (name : Option Ident) (span : Span) : Fresh Ident :=
  match name with
  | some name => return name
  | none => freshIdent "default" span

def defaultDeclaration (name : Ident) (declaration : Node) : Lowered :=
  { statement := some declaration
    exports := [.default name]
    events := [.defaultDeclaration name.name] }

/-- `export default` of a function or class keeps the declaration, of an interface it exports
nothing. -/
def exportDefaultDeclaration (span : Span) : Node → Fresh Lowered
  | .node place (.functionExpression name) parts => do
    let name ← defaultName name span
    return defaultDeclaration name (.node place (.functionDeclaration name false) parts)
  | .node place (.classExpression name) parts => do
    let name ← defaultName name span
    return defaultDeclaration name (.node place (.classDeclaration name false) parts)
  | declaration => return { statement := some declaration, events := [.defaultInterface] }

/-- `export default value` takes the value where the export stands. -/
def exportDefaultExpression (span : Span) (value : Node) (event : Event) : Fresh Lowered := do
  let name ← freshIdent "default" span
  let statement :=
    constDeclaration span [declarator (Ident.named name.name name.span).pattern value]
  return { statement := some statement, exports := [.default name], events := [event] }

def entityExpression : Node → Node
  | .node _ .qualifiedName [left, right] => .node right.span .member [entityExpression left, right]
  | name => name

/-- The value of `import name = reference`, and how many modules it loads. -/
def referenceValue (hook : String) (span : Span) : Node → Node × Nat
  | .node _ (.externalModule source) _ => ((⟨source,.absent⟩ : Request).load hook span, 1)
  | reference => (entityExpression reference, 0)

def importEquals (hook : String) (span : Span) (isExport typeOnly : Bool) (name : Ident)
    (reference : Node) : Lowered :=
  if typeOnly then .dropped (.typeAliasDropped name.name)
  else
    let (value, requests) := referenceValue hook span reference
    let pattern := (Ident.named name.name name.span).pattern
    { statement := some (constDeclaration span [declarator pattern value])
      exports := if isExport then [.own name] else []
      requests := requests
      events := [.importEquals name.name] }

/-- What one item of a module becomes. -/
def item (hook : String) : Node → Fresh Lowered
  | .node span (.importDeclaration specifiers source typeOnly _) [attributes] =>
    return importDeclaration hook span specifiers ⟨source,attributes⟩ typeOnly
  | .node _ .exportDeclaration [declaration] => return exportDeclaration declaration
  | .node span (.exportNamed specifiers source typeOnly) [attributes] =>
    exportNamed hook span specifiers source typeOnly attributes
  | .node span (.exportAll source typeOnly) [attributes] =>
    exportAll hook span ⟨source,attributes⟩ typeOnly
  | .node span .exportDefaultDeclaration [declaration] => exportDefaultDeclaration span declaration
  | .node span .exportDefaultExpression [value] =>
    exportDefaultExpression span value .defaultExpression
  | .node span .exportAssignment [value] => exportDefaultExpression span value .exportAssigned
  | .node _ (.exportAsNamespace name) _ => return .dropped (.namespaceExportDropped name.name)
  | .node span (.importEquals isExport typeOnly name) [reference] =>
    return importEquals hook span isExport typeOnly name reference
  | statement => return .kept statement

def items (hook : String) : List Node → Fresh (List Lowered)
  | [] => return []
  | first :: rest => do
    let first ← item hook first
    let others ← items hook rest
    return first :: others

end AsyncBody.Lowering
