import AsyncBody.Hook.Use
import AsyncBody.Text.Quoted

/-!
What is reported while a module is lowered to a function body.
-/
namespace AsyncBody

inductive Event where
  | shadowed (hook : String)
  | replaced (use : HookUse)
  | importLoaded (source : String)
  | typeImportDropped (source : String)
  | typeSpecifiersDropped (source : String)
  | exportDeclared (names : Nat)
  | typeExportDropped
  | localExports
  | typeReexportsDropped (source : String)
  | reexportLoaded (source : String)
  | defaultInterface
  | defaultDeclaration (name : String)
  | defaultExpression
  | exportAssigned
  | namespaceExportDropped (name : String)
  | typeStarDropped (source : String)
  | starLoaded (source : String)
  | typeAliasDropped (name : String)
  | importEquals (name : String)
  | finished (imports exports uses : Nat)
  | emitted (bytes : Nat) (file : String)
deriving DecidableEq, Repr

namespace Event

/-- Sources stand between quotes, their characters as they are. -/
def source (s : String) : String := "\"" ++ s ++ "\""

def message : Event → String
  | .shadowed hook => "hook " ++ Text.quoted hook ++ " is shadowed by a nested binding"
  | .replaced (.dynamicImport call) => "rewriting dynamic import at " ++ call.text
  | .replaced (.importMeta place) => "rewriting import.meta at " ++ place.text
  | .importLoaded s => "import " ++ source s
  | .typeImportDropped s => "dropping type-only import of " ++ source s
  | .typeSpecifiersDropped s => "dropping import of " ++ source s ++ " with only type specifiers"
  | .exportDeclared names => "export declaration binding " ++ toString names ++ " name(s)"
  | .typeExportDropped => "dropping type-only export"
  | .localExports => "local export list"
  | .typeReexportsDropped s =>
    "dropping re-export of " ++ source s ++ " with only type specifiers"
  | .reexportLoaded s => "re-export from " ++ source s
  | .defaultInterface => "export default interface, kept without a runtime export"
  | .defaultDeclaration name => "export default declaration `" ++ name ++ "`"
  | .defaultExpression => "export default <expr>"
  | .exportAssigned => "export = <expr>, exported as default"
  | .namespaceExportDropped name => "dropping `export as namespace " ++ name ++ "`"
  | .typeStarDropped s => "dropping type-only star export of " ++ source s
  | .starLoaded s => "star re-export from " ++ source s
  | .typeAliasDropped name => "dropping `import type " ++ name ++ " = ...`"
  | .importEquals name => "import equals `" ++ name ++ "`"
  | .finished imports exports uses =>
    "module rewritten: " ++ toString imports ++ " import(s), " ++ toString exports ++
      " export(s), " ++ toString uses ++ " dynamic import/meta expression(s)"
  | .emitted bytes file => "emitted " ++ toString bytes ++ " byte(s) for " ++ file

/-- Uses of the hook are reported at the finest level. -/
def isTrace : Event → Bool
  | .shadowed _ | .replaced _ => true
  | _ => false

def text (e : Event) : String := (if e.isTrace then "TRACE " else "DEBUG ") ++ e.message

end Event
end AsyncBody
