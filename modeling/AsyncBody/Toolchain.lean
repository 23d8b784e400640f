import AsyncBody.FunctionBody

/-!
From the source of a module to the text of the function body that it becomes, whatever parser reads
the one and whatever printer spells the other.
-/
namespace AsyncBody

namespace Source

/-- Which syntax a source may use. -/
structure Dialect where
  types : Bool
  markup : Bool
  decorators : Bool
  defaultFrom : Bool
deriving DecidableEq, Repr

/-- TypeScript by its file names; all else is ECMAScript with markup and `export v from`. -/
def Dialect.ofFile (file : String) : Dialect :=
  let isMarkup := file.endsWith ".tsx"
  if isMarkup || file.endsWith ".ts" || file.endsWith ".mts" || file.endsWith ".cts" then
    ⟨true,isMarkup,true,false⟩
  else ⟨false,true,false,true⟩

inductive SourceError where
  | badModule (file : String)
  | badBody (file : String)
deriving DecidableEq, Repr

def SourceError.message : SourceError → String
  | .badModule file => "failed to parse " ++ file
  | .badBody file => file ++ " is not a valid async function body"

/-- A text inside the function whose body it is to be. -/
def wrapBody (body importName : String) : String :=
  "(async function (" ++ importName ++ ") \x7b\n" ++ body ++ "\n\x7d);\n"

theorem wrapBody_eq (body importName : String) : wrapBody body importName =
    "(async function (" ++ importName ++ ") \x7b\n" ++ body ++ "\n\x7d);\n" := (rfl)

end Source

inductive CompileError where
  | source (cause : Source.SourceError)
  | config (cause : ConfigError)
deriving DecidableEq, Repr

/-- A parser and a printer of programs. The printer also maps what it prints back to the source of a
file. -/
structure Toolchain where
  parse : SourceKind → Source.Dialect → String → Option Program
  print : Program → String
  sourceMap : String → String → Program → String

namespace Toolchain

variable (t : Toolchain)

/-- Reads a source as a module, in the syntax that the name of its file asks for. -/
def readModule (source file : String) : Except Source.SourceError Program :=
  match t.parse .module (.ofFile file) source with
  | some p => .ok { p with kind := .module }
  | none => .error (.badModule file)

/-- Reads a text as the body of an async function, by wrapping it into one. -/
def readBody (body file importName : String) : Except Source.SourceError Program :=
  match t.parse .script (.ofFile file) (Source.wrapBody body importName) with
  | some p => .ok { p with kind := .script }
  | none => .error (.badBody file)

/-- The text of a body, alone or inside the function. -/
def text (options : Options) (wrapped : Bool) (body : Program) : String :=
  t.print (if wrapped then options.wrap body else body)

/-- Reads a source in the syntax of its file and prints the body that it becomes. -/
def compile (options : Options) (wrapped : Bool) (source file : String) :
    Except CompileError String := do
  let p ← (t.readModule source file).mapError .source
  let body ← (p.toFunctionBody options).result.mapError .config
  return t.text options wrapped body

section Compile

variable {t} {options : Options} {wrapped : Bool} {source file : String} {p : Program}

theorem compile_eq_unread {e : Source.SourceError} (h : t.readModule source file = .error e) :
    t.compile options wrapped source file = .error (.source e) := by
  unfold compile
  rw [h]
  rfl

theorem compile_eq_refused {e : ConfigError} (hread : t.readModule source file = .ok p)
    (h : (p.toFunctionBody options).result = .error e) :
    t.compile options wrapped source file = .error (.config e) := by
  unfold compile
  rw [hread]
  change ((p.toFunctionBody options).result.mapError CompileError.config).bind _ = _
  rw [h]
  rfl

theorem compile_eq_ok {body : Program} (hread : t.readModule source file = .ok p)
    (h : (p.toFunctionBody options).result = .ok body) :
    t.compile options wrapped source file = .ok (t.text options wrapped body) := by
  unfold compile
  rw [hread]
  change ((p.toFunctionBody options).result.mapError CompileError.config).bind _ = _
  rw [h]
  rfl

end Compile

end Toolchain

end AsyncBody
