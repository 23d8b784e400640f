import AsyncBody.Hook.Shadow
import AsyncBody.Lowering.Items
import AsyncBody.Options

/-!
A module as the body of an async function whose only parameter is the import hook, and the function
around such a body.
-/
namespace AsyncBody

/-- A result together with what was reported on the way to it. -/
structure Reported (α : Type) where
  result : α
  events : List Event

namespace Program

/-- The statements of the function: one at most for each item, then the `return` of the exports. -/
def lower (hook : String) (supply : NameSupply) (p : Program) : Reported Program :=
  let routed := p.route hook
  let (items, _) := Lowering.items hook routed.result.body supply
  let exports := items.flatMap (·.exports)
  let requests := items.foldr (·.requests + ·) 0
  let statements := items.filterMap (·.statement)
  { result := ⟨.script,p.span,statements ++ [Export.returnStatement p.span exports],none⟩
    events := routed.uses.map .replaced ++ items.flatMap (·.events) ++
      [.finished requests exports.length routed.uses.length] }

/-- Lowers a program to the body of an async function. It is refused if the name of the hook is
no identifier, is bound at the top level, or is rebound around a use of the hook. -/
def toFunctionBody (options : Options) (p : Program) : Reported (Except ConfigError Program) :=
  let hook := options.importName
  match options.validate with
  | .error e => ⟨.error e,[]⟩
  | .ok () =>
    if p.topLevelNames.contains hook then ⟨.error (.importNameCollision hook),[]⟩
    else
      let shadowed := p.shadowedUses hook
      if shadowed.isEmpty then
        let lowered := p.lower hook (.ofProgram p hook)
        ⟨.ok lowered.result,lowered.events⟩
      else ⟨.error (.importNameShadowed hook),shadowed.map fun _ => .shadowed hook⟩

end Program

def Options.parameter (options : Options) : Node :=
  .node .nowhere .parameter [.many [], (Ident.named options.importName .nowhere).pattern]

/-- `async function (hook) { body }`. -/
def Options.asyncFunction (options : Options) (body : Program) : Node :=
  .node body.span (.function 0 false true)
    [.many [options.parameter], .many [], .node body.span (.block 0) [.many body.body], .absent,
      .absent]

/-- A script with the single statement `(async function (hook) { body });`. -/
def Options.wrap (options : Options) (body : Program) : Program :=
  let function := Node.node .nowhere (.functionExpression none) [options.asyncFunction body]
  ⟨.script,body.span,
    [.node body.span .expressionStatement [.node body.span .parenthesis [function]]],none⟩

end AsyncBody
