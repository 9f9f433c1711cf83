import ObjectStorage.Memory.Script
import ObjectStorage.Program

/-! The command line over a store in memory that lasts as long as the run. -/

open ObjectStorage ObjectStorage.CommandLine

/-- What the system says about a path that it does not open. -/
def fileProblem : IO.Error → FileProblem
  | .noFileOrDirectory .. => .notFound
  | .inappropriateType _ code text | .resourceExhausted _ code text
  | .permissionDenied _ code text | .invalidArgument _ code text =>
    if code = 20 then .notDirectory
    else if code = 21 then .isDirectory
    else if code = 36 then .nameTooLong
    else .other code.toNat text
  | e => .other 5 e.toString

/-- The paths that an invocation reads. -/
def pathsOf (i : Invocation) : List String :=
  i.settingsPath?.toList ++
    match i.command with
    | .stream _ (.file path) .. => [path]
    | .put _ (some path) => [path]
    | _ => []

/-- Reads the file at a path. -/
def readFile (path : String) : IO (Except FileError ByteArray) := do
  if path.contains '\x00' then return .error .nullInPath
  try
    return .ok (← IO.FS.readBinFile path)
  catch e => return .error (.system (fileProblem e) path)

/-- Reads the standard input if an invocation takes it. -/
def readInput (i : Invocation) : IO ByteArray := do
  match i.command with
  | .stream _ .standardInput .. => (← IO.getStdin).readBinToEnd
  | _ => return .empty

/-- Shows a report and gives the exit status. -/
def present (report : Report) : IO UInt32 := do
  let errors ← IO.getStderr
  (← IO.getStdout).putStr report.output
  for record in report.log do
    errors.putStrLn record.render
  if let some complaint := report.complaint? then errors.putStrLn complaint
  match report.ending with
  | .exit status => return status.toUInt32
  | .failure cause =>
    errors.putStrLn cause.message
    return 1

def main (arguments : List String) : IO UInt32 := do
  match Invocation.ofArguments arguments with
  | .error halt => present halt.report
  | .ok invocation =>
    let contents ← (pathsOf invocation).mapM fun path => return (path, ← readFile path)
    let files : FileReader := fun path =>
      (contents.lookup path).getD (.error (.system .notFound path))
    let around := Surroundings.ofFiles files (← readInput invocation) OpenFile.blockLimit
    present (invocation.run Script.client around {}).1
