import AsyncBody.Options

/-!
The arguments of the program, and the request that they make. Switches and plain arguments may stand
in any order; after `--` all arguments are plain. What comes after a call for help is not read.
-/
namespace AsyncBody.CommandLine

/-- What is asked for. -/
inductive Subcommand where
  | transform
  | check
  | parse
deriving DecidableEq, Repr

def Subcommand.ofName? : String → Option Subcommand
  | "transform" => some .transform
  | "check" => some .check
  | "parse" => some .parse
  | _ => none

inductive Switch where
  | verbose
  | output
  | importName
  | wrap
  | sourceMap
  | asData
deriving DecidableEq, Repr

namespace Switch

def takesValue : Switch → Bool
  | .output | .importName => true
  | _ => false

/-- `verbose` may stand anywhere; the others belong to one subcommand each. -/
def isAllowed (subcommand : Option Subcommand) : Switch → Bool
  | .verbose => true
  | .asData => subcommand = some .parse
  | _ => subcommand = some .transform

def ofName? : String → Option Switch
  | "verbose" => some .verbose
  | "output" => some .output
  | "import-name" => some .importName
  | "wrap" => some .wrap
  | "source-map" => some .sourceMap
  | "ast" => some .asData
  | _ => none

def ofLetter? : Char → Option Switch
  | 'v' => some .verbose
  | 'o' => some .output
  | _ => none

end Switch

/-- Why arguments make no request. -/
inductive Stop where
  | help
  | usage
deriving DecidableEq, Repr

namespace Stop

def orUsage {α : Type} : Option α → Except Stop α
  | some a => .ok a
  | none => .error .usage

/-- What `help` asks for: it may be followed by the name of one subcommand, its own included. -/
def ofTopics : List String → Stop
  | [] => .help
  | [topic] => if topic = "help" || (Subcommand.ofName? topic).isSome then .help else .usage
  | _ => .usage

end Stop

/-- A request of which the arguments so far are known. -/
structure Draft where
  verbose : Bool := false
  subcommand : Option Subcommand := none
  input : Option String := none
  given : List (Switch × String) := []
  awaiting : Option Switch := none
  onlyPlain : Bool := false

namespace Draft

/-- No switch is given twice, but `verbose` once before and once after the subcommand. -/
def give (d : Draft) (s : Switch) (value : String) : Option Draft := do
  guard (s.isAllowed d.subcommand && (d.given.lookup s).isNone)
  guard (s != .output || value != "")
  return { d with
    given := (s,value) :: d.given
    verbose := d.verbose || s == .verbose
    awaiting := none }

/-- A switch whose value is the next argument. -/
def await (d : Draft) (s : Switch) : Option Draft := do
  guard (s.isAllowed d.subcommand)
  return { d with awaiting := some s }

/-- The first plain argument is the subcommand, the second one its input. -/
def plain (d : Draft) (text : String) : Option Draft :=
  match d.awaiting, d.subcommand, d.input with
  | some s, _, _ => d.give s text
  | none, none, _ => do
    guard (! d.onlyPlain)
    return { d with subcommand := some (← Subcommand.ofName? text), given := [] }
  | none, some _, none => do
    guard (text != "")
    return { d with input := some text }
  | none, some _, some _ => none

/-- A switch by its name, with the value after an equals sign if there is one. -/
def long (d : Draft) (text : List Char) : Option Draft := do
  let s ← Switch.ofName? (String.ofList (text.takeWhile (· != '=')))
  match text.dropWhile (· != '=') with
  | [] => if s.takesValue then d.await s else d.give s ""
  | _ :: value =>
    guard s.takesValue
    d.give s (String.ofList value)

/-- Switches by their letters; what follows the letter of one with a value is its value. -/
def short (d : Draft) : List Char → Except Stop Draft
  | [] => .ok d
  | 'h' :: _ => .error .help
  | c :: rest => do
    let s ← Stop.orUsage (Switch.ofLetter? c)
    if s.takesValue then
      match rest with
      | [] => Stop.orUsage (d.await s)
      | '=' :: value => Stop.orUsage (d.give s (String.ofList value))
      | value => Stop.orUsage (d.give s (String.ofList value))
    else short (← Stop.orUsage (d.give s "")) rest

def add (d : Draft) (argument : String) : Except Stop Draft :=
  if d.onlyPlain then Stop.orUsage (d.plain argument)
  else
    match argument.toList with
    | '-' :: c :: rest =>
      if d.awaiting.isSome then .error .usage
      else if c != '-' then d.short (c :: rest)
      else if rest.isEmpty then .ok { d with onlyPlain := true }
      else if argument = "--help" then .error .help
      else Stop.orUsage (d.long rest)
    | _ => Stop.orUsage (d.plain argument)

/-- Adds arguments up to one that asks for help or is malformed. -/
def addAll (d : Draft) : List String → Except Stop Draft
  | [] => .ok d
  | argument :: rest =>
    if argument = "help" && d.subcommand.isNone && ! d.onlyPlain then .error (.ofTopics rest)
    else do addAll (← d.add argument) rest

def isGiven (d : Draft) (s : Switch) : Bool := (d.given.lookup s).isSome

end Draft

/-- What to do with the input. -/
inductive Task where
  | transform (output : Option String) (options : Options) (wrap sourceMap : Bool)
  | check
  | parse (asData : Bool)
deriving DecidableEq, Repr

structure Request where
  verbose : Bool
  input : String
  task : Task
deriving DecidableEq, Repr

def Draft.task (d : Draft) : Subcommand → Task
  | .check => .check
  | .parse => .parse (d.isGiven .asData)
  | .transform =>
    let options := ((d.given.lookup .importName).map Options.mk).getD {}
    .transform (d.given.lookup .output) options (d.isGiven .wrap) (d.isGiven .sourceMap)

/-- The request that arguments make. -/
def Request.ofArguments (arguments : List String) : Except Stop Request := do
  let d ← Draft.addAll {} arguments
  Stop.orUsage do
    guard d.awaiting.isNone
    return ⟨d.verbose,← d.input,d.task (← d.subcommand)⟩

/-- The lines that tell how to call the program. -/
def instructions : List String :=
  ["usage: async-body [-v] transform INPUT [-o OUTPUT] [--import-name NAME] [--wrap]",
    "                                      [--source-map]",
    "       async-body [-v] check INPUT",
    "       async-body [-v] parse INPUT [--ast]"]

end AsyncBody.CommandLine
