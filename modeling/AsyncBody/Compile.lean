import AsyncBody.Source.ModuleItems
import AsyncBody.Source.Printer

/-!
Reading whole sources, modules and scripts, by the grammar with its recursion closed; and the parser
and the printer of this library put to work.
-/
namespace AsyncBody.Source

open Source.Parser

/-- The rule of each goal, over the parsers of all goals. -/
def rule (g : Grammar) : Grammar
  | .statement => Statements.statement g
  | .moduleItem => ModuleItems.moduleItem g
  | .expression => Expressions.expression g
  | .assignment => Expressions.assignment g
  | .binary level => Expressions.binary g level
  | .unary => Expressions.unary g
  | .lhs => Expressions.lhs g
  | .pattern => Patterns.untyped g
  | .binding => Patterns.binding g
  | .block => Statements.block g
  | .type => Types.type g
  | .plainType => Types.plainType g
  | .element => Markup.element g

/-- The grammar to a depth of nested goals. -/
def grammar : Nat → Grammar
  | 0 => fun _ => Parser.fail
  | depth + 1 => fun goal => rule (grammar depth) goal

/-- Goals that can be nested in one another before any of them takes a character. -/
def goalsPerCharacter : Nat := 16

/-- Items up to the end of the source. -/
def itemsToEnd (item : Parser Node) : Parser (List Node) := repeated do
  if (← peek).token == .stop then return none else return some (← item)

/-- A first line that starts with `#!`, without these two characters, and what follows it. -/
def interpreterLine : List Char → Option String × List Char
  | '#' :: '!' :: rest =>
    (some (String.ofList (rest.takeWhile (! isLineEnd ·))), rest.dropWhile (! isLineEnd ·))
  | cs => (none, cs)

def withoutMark : List Char → List Char
  | c :: rest => if c.toNat = 0xFEFF then rest else c :: rest
  | [] => []

/-- Reads a source as a program of a kind. Positions count bytes from one, and a byte order mark at
the start does not count. -/
def program? (kind : SourceKind) (dialect : Dialect) (source : String) : Option Program := do
  let cs := withoutMark source.toList
  let (interpreter, rest) := interpreterLine cs
  let first := 1 + width cs - width rest
  let isModule := kind == .module
  let ctx : Context := { dialect, isModule, awaits := isModule }
  let g := grammar (goalsPerCharacter * (cs.length + 2))
  let item := if isModule then g .moduleItem else g .statement
  let place : Parser (Nat × List Node × Nat) := do
    let s ← start
    let body ← itemsToEnd item
    let stop := (← spanFrom s).stop
    return (s, body, if body.isEmpty then s else stop)
  let ((s, body, stop), _) ← place.run ctx ⟨rest,first,first⟩
  let s := if interpreter.isSome then 1 else s
  guard (! Node.hasUnreadAny body)
  return ⟨kind,⟨s,stop⟩,body,interpreter⟩

end AsyncBody.Source

namespace AsyncBody

/-- The parser and the printer of this library. Its maps name their source and map no position. -/
def Toolchain.own : Toolchain where
  parse := Source.program?
  print := Source.print
  sourceMap _ file _ :=
    "\x7b\"version\":3,\"sources\":[" ++ Json.quote file ++ "],\"names\":[],\"mappings\":\"\"\x7d"

def Source.readBody (body file importName : String) : Except SourceError Program :=
  Toolchain.own.readBody body file importName

def compile (options : Options) (wrapped : Bool) (source file : String) :
    Except CompileError String := Toolchain.own.compile options wrapped source file

end AsyncBody
