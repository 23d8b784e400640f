import AsyncBody.CommandLine.Arguments
import AsyncBody.CommandLine.Directory
import AsyncBody.Compile
import AsyncBody.Tree.Layout

/-!
What the program does for a request: the actions that follow once its input is read, and the outcome
of these actions in a directory. The first action that fails ends a run.
-/
namespace AsyncBody.CommandLine

inductive Failure where
  | unreadable (file : String) (cause : FileError)
  | malformed (cause : Source.SourceError)
  | refused (file : String) (cause : ConfigError)
  | bodyUnwritable (file : String) (cause : FileError)
  | mapUnwritable (cause : FileError)
deriving DecidableEq, Repr

def because (cause : String) : List String := ["", "Caused by:", "    " ++ cause]

def Failure.lines : Failure → List String
  | .unreadable file cause => ("Error: failed to read " ++ file) :: because cause.message
  | .malformed cause => ["Error: " ++ cause.message]
  | .refused file cause => ("Error: cannot rewrite " ++ file) :: because cause.message
  | .bodyUnwritable file cause => ("Error: failed to write " ++ file) :: because cause.message
  | .mapUnwritable cause => ["Error: " ++ cause.message]

/-- What is told beside the output. -/
inductive Notice where
  | event (e : Event)
  | wellFormed (file : String)
  | mapWritten (file : String)
  | failure (f : Failure)
deriving DecidableEq, Repr

def Notice.lines : Notice → List String
  | .event e => [e.text]
  | .wellFormed file => ["OK: " ++ file]
  | .mapWritten file => ["Source map written to " ++ file]
  | .failure f => f.lines

/-- A text to be written: the body of the function, or the map of its source. -/
inductive Artifact where
  | body
  | sourceMap
deriving DecidableEq, Repr

def Artifact.failure (file : String) (cause : FileError) : Artifact → Failure
  | .body => .bodyUnwritable file cause
  | .sourceMap => .mapUnwritable cause

inductive Action where
  | tell (notice : Notice)
  | print (text : String)
  | save (artifact : Artifact) (file text : String)
  | fail (failure : Failure)
deriving DecidableEq, Repr

/-- The events that are worth a line, if any are asked for. -/
def reports (verbose : Bool) (events : List Event) : List Action :=
  if verbose then (events.filter (! ·.isTrace)).map fun e => .tell (.event e) else []

/-- Where the text of the body goes, and the map of its source if there is to be one. -/
def emission (input : String) (output map : Option String) (text : String) : List Action :=
  let body := match output with
    | some file => .save .body file text
    | none => .print text
  let mapFile := output.getD input ++ ".map"
  body :: match map with
    | some map => [.save .sourceMap mapFile map,.tell (.mapWritten mapFile)]
    | none => []

/-- What follows from the program that an input holds. -/
def Task.actions (t : Toolchain) (verbose : Bool) (input source : String) (p : Program) :
    Task → List Action
  | .check => [.tell (.wellFormed input)]
  | .parse asData =>
    [.print ((if asData then p.toJson.pretty 0 else p.outline) ++ "\n")]
  | .transform output options wrap sourceMap =>
    let lowered := p.toFunctionBody options
    reports verbose lowered.events ++
      match lowered.result with
      | .error e => [.fail (.refused input e)]
      | .ok body =>
        let printed := if wrap then options.wrap body else body
        let text := t.print printed
        let map := if sourceMap then some (t.sourceMap source input printed) else none
        reports verbose [.emitted text.utf8ByteSize input] ++ emission input output map text

/-- What follows from the text of the input. -/
def Request.actions (t : Toolchain) (r : Request) : Except FileError String → List Action
  | .error e => [.fail (.unreadable r.input e)]
  | .ok source =>
    match t.readModule source r.input with
    | .error e => [.fail (.malformed e)]
    | .ok p => r.task.actions t r.verbose r.input source p

inductive Exit where
  | success
  | failure
  | usage
deriving DecidableEq, Repr

def Exit.code : Exit → Nat
  | .success => 0
  | .failure => 1
  | .usage => 2

/-- What a run leaves behind. -/
structure Outcome where
  exit : Exit
  output : String
  notices : List Notice
  directory : Directory

/-- Takes actions one after the other, up to one that fails. -/
def perform (d : Directory) : List Action → Outcome
  | [] => ⟨.success,"",[],d⟩
  | .tell notice :: rest =>
    let o := perform d rest
    { o with notices := notice :: o.notices }
  | .print text :: rest =>
    let o := perform d rest
    { o with output := text ++ o.output }
  | .save artifact file text :: rest =>
    match d.writeText file text with
    | .ok written => perform written rest
    | .error e => ⟨.failure,"",[.failure (artifact.failure file e)],d⟩
  | .fail failure :: _ => ⟨.failure,"",[.failure failure],d⟩

def Request.run (t : Toolchain) (r : Request) (d : Directory) : Outcome :=
  perform d (r.actions t (d.readText r.input))

def Stop.run (d : Directory) : Stop → Outcome
  | .help => ⟨.success,String.join (instructions.map (· ++ "\n")),[],d⟩
  | .usage => ⟨.usage,"",[],d⟩

/-- What arguments ask for, done with a parser and a printer. -/
def runWith (t : Toolchain) (arguments : List String) (d : Directory) : Outcome :=
  match Request.ofArguments arguments with
  | .ok r => r.run t d
  | .error stop => stop.run d

def run (arguments : List String) (d : Directory) : Outcome := runWith .own arguments d

end AsyncBody.CommandLine
