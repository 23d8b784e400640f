import AsyncBody.Tree.Basic

/-!
Uses of the import hook: a dynamic import in the evaluation phase, and `import.meta`. Routing turns
the one into a call of the hook and the other into a read of its property `meta`.
-/
namespace AsyncBody

inductive HookUse where
  | dynamicImport (call : Span)
  | importMeta (place : Span)
deriving DecidableEq, Repr

namespace Hook

/-- The use that a node itself is, if it is one. -/
def use? : Node → Option HookUse
  | .node span (.call _) (.node _ (.importKeyword .evaluation) _ :: _) => some (.dynamicImport span)
  | .node span (.metaProperty .importMeta) _ => some (.importMeta span)
  | _ => none

def identifier (hook : String) (span : Span) : Node := (Ident.named hook span).reference

def metaRead (hook : String) (span : Span) : Node :=
  .node span .member [identifier hook span, .leaf span (.propertyName "meta")]

/-- Puts the hook in place of a use; any other node stays. -/
def replace (hook : String) : Node → Node
  | .node span (.call ctxt) (.node place (.importKeyword .evaluation) _ :: rest) =>
    .node span (.call ctxt) (identifier hook place :: rest)
  | .node span (.metaProperty .importMeta) _ => metaRead hook span
  | other => other

/-- A result together with the uses that were replaced on the way, in their order. -/
structure Routed (α : Type) where
  result : α
  uses : List HookUse

end Hook

namespace Node

open Hook

mutual

/-- Routes every use inside a node through the hook, the uses within a use first. -/
def route (hook : String) : Node → Routed Node
  | .absent => ⟨.absent,[]⟩
  | .many items =>
    let inner := routeAll hook items
    ⟨.many inner.result,inner.uses⟩
  | .node span form parts =>
    let inner := routeAll hook parts
    let here := Node.node span form inner.result
    ⟨replace hook here,inner.uses ++ (use? here).toList⟩

def routeAll (hook : String) : List Node → Routed (List Node)
  | [] => ⟨[],[]⟩
  | item :: rest =>
    let first := route hook item
    let others := routeAll hook rest
    ⟨first.result :: others.result,first.uses ++ others.uses⟩

end

end Node

def Program.route (hook : String) (p : Program) : Hook.Routed Program :=
  let body := Node.routeAll hook p.body
  ⟨{ p with body := body.result },body.uses⟩

namespace Hook

/-- Routes one program after another through a hook and counts the uses that it has replaced. -/
structure Router where
  hook : String
  replaced : Nat := 0
deriving DecidableEq, Repr

def Router.visit (r : Router) (p : Program) : Program × Router :=
  let routed := p.route r.hook
  (routed.result, { r with replaced := r.replaced + routed.uses.length })

end Hook
end AsyncBody
