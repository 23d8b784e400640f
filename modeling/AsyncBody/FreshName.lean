import AsyncBody.Tree.Basic
import AsyncBody.Text.Identifier

/-!
Fresh names: identifiers that a program spells nowhere, each made from a readable base.
-/
namespace AsyncBody

def ExportName.idents : ExportName → List Ident
  | .ident name => [name]
  | .string _ => []

def ImportSpecifier.idents : ImportSpecifier → List Ident
  | .named _ bound imported _ => bound :: imported.toList.flatMap ExportName.idents
  | .default _ bound => [bound]
  | .whole _ bound => [bound]

def ExportSpecifier.idents : ExportSpecifier → List Ident
  | .named _ inner exported _ =>
    inner.idents ++ exported.toList.flatMap ExportName.idents
  | .default exported => [exported]
  | .whole _ exported => exported.idents

/-- The names that a form spells itself, as identifiers or as names of properties. -/
def Form.spelled : Form → List String
  | .ident _ name _ | .propertyName name | .binding _ name _ => [name]
  | .functionExpression name | .classExpression name => name.toList.map (·.name)
  | .functionDeclaration name _ | .classDeclaration name _ | .enumDeclaration _ _ name
  | .moduleDeclaration _ _ _ (.ident name) | .namespaceDeclaration _ _ name
  | .interfaceDeclaration name _ | .typeAlias _ name | .importEquals _ _ name
  | .exportAsNamespace name => [name.name]
  | .importDeclaration specifiers _ _ _ => specifiers.flatMap fun s => s.idents.map (·.name)
  | .exportNamed specifiers _ _ => specifiers.flatMap fun s => s.idents.map (·.name)
  | _ => []

namespace Node

mutual

/-- Every name that a tree spells: references, bindings, labels, types and property names. -/
def spelled : Node → List String
  | .absent => []
  | .many items => spelledAll items
  | .node _ form parts => form.spelled ++ spelledAll parts

def spelledAll : List Node → List String
  | [] => []
  | item :: rest => spelled item ++ spelledAll rest

end

end Node

structure NameSupply where
  taken : List String
deriving DecidableEq, Repr

namespace NameSupply

/-- What a program spells is taken, and so is the reserved name. -/
def ofProgram (p : Program) (reserved : String) : NameSupply :=
  ⟨reserved :: Node.spelledAll p.body⟩

/-- Keeps the characters that can continue an identifier; the others become underscores. -/
def sanitize (base : String) : String :=
  if base.isEmpty then "ref"
  else String.ofList (base.toList.map fun c => if Text.isIdContinue c then c else '_')

def stem (base : String) : String := "_" ++ sanitize base

/-- The candidates for a stem: itself, then the stem followed by 1, 2 and so on. -/
def candidate (stem : String) : Nat → String
  | 0 => stem
  | n + 1 => stem ++ toString (n + 1)

/-- The first candidate that is free. One of the first `taken.length + 1` is. -/
def firstFree (supply : NameSupply) (stem : String) : String :=
  let candidates := (List.range (supply.taken.length + 1)).map (candidate stem)
  (candidates.find? (! supply.taken.contains ·)).getD stem

/-- Hands out a free name for a base and takes it. -/
def fresh (supply : NameSupply) (base : String) : String × NameSupply :=
  let name := supply.firstFree (stem base)
  (name, ⟨name :: supply.taken⟩)

end NameSupply
end AsyncBody
