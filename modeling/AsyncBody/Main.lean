import AsyncBody.CommandLine.Run

/-!
The program: reads the input that its arguments name and takes the actions that follow.
-/
namespace AsyncBody.CommandLine

def FileError.ofSystem : IO.Error → FileError
  | .noFileOrDirectory .. => .missing
  | .inappropriateType _ code _ => if code = 20 then .notFolder else .isFolder
  | .invalidArgument _ 36 _ => .tooLong
  | e => .other e.toString

def readInput (file : String) : IO (Except FileError String) := do
  try
    match String.fromUTF8? (← IO.FS.readBinFile file) with
    | some text => return .ok text
    | none => return .error .notText
  catch e => return .error (.ofSystem e)

def saveText (file text : String) : IO (Except FileError Unit) := do
  try return .ok (← IO.FS.writeFile file text)
  catch e => return .error (.ofSystem e)

def Notice.report (notice : Notice) : IO Unit := notice.lines.forM IO.eprintln

def takeAll : List Action → IO Exit
  | [] => return .success
  | .tell notice :: rest => do
    notice.report
    takeAll rest
  | .print text :: rest => do
    IO.print text
    takeAll rest
  | .save artifact file text :: rest => do
    match ← saveText file text with
    | .ok () => takeAll rest
    | .error e =>
      (Notice.failure (artifact.failure file e)).report
      return .failure
  | .fail failure :: _ => do
    (Notice.failure failure).report
    return .failure

def start (arguments : List String) : IO UInt32 := do
  match Request.ofArguments arguments with
  | .ok r => return UInt32.ofNat (← takeAll (r.actions .own (← readInput r.input))).code
  | .error .help =>
    instructions.forM IO.println
    return UInt32.ofNat Exit.success.code
  | .error .usage =>
    instructions.forM IO.eprintln
    return UInt32.ofNat Exit.usage.code

end AsyncBody.CommandLine

def main : List String → IO UInt32 := AsyncBody.CommandLine.start
