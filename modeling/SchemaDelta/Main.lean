import SchemaDelta.CommandLine.Run

/-!
# Program

The command line as a program. All it adds are the real files and streams.
-/

namespace SchemaDelta

namespace CommandLine

/-- The fault that reading or writing a file ran into, told by its number, which may be negated. One
without a form of its own is told in the words of the system. -/
def faultOf : IO.Error → FileFault
  | .noFileOrDirectory .. => .notFound
  | .permissionDenied _ code details =>
    if code = 13 ∨ code = -13 then .permissionDenied else .other details
  | .inappropriateType _ code _ =>
    if code = 20 ∨ code = -20 then .notDirectory else .isDirectory
  | .invalidArgument _ code details =>
    if code = 36 ∨ code = -36 then .nameTooLong else .other details
  | error => .other (toString error)

/-- Reads a file, which is to be a text. -/
def readPath (path : String) : IO (String × Except FileFault String) := do
  try
    match String.fromUTF8? (← IO.FS.readBinFile path) with
    | some text => return (path, .ok text)
    | none => return (path, .error .notText)
  catch error =>
    return (path, .error (faultOf error))

/-- Writes a file; gives the fault if that is not possible. A fault may come up as late as the last
bytes leave the buffer. -/
def writePath (path content : String) : IO (Option FileFault) := do
  try
    IO.FS.withFile path .write fun file => do
      file.putStr content
      file.flush
    return none
  catch error =>
    return some (faultOf error)

/-- The files that a command line reads. -/
def inputPaths (invocation : Invocation) : List String :=
  invocation.config.toList ++
    match invocation.command with
    | .validate snapshot => [snapshot]
    | .diff before after => [before, after]
    | .bootstrap snapshot _ => [snapshot]
    | .migrate before after _ => [before, after]

/-- Runs the command line that the arguments spell. All files are read first, what is printed comes
before anything is written, and the log comes last. -/
def runProgram (args : List String) : IO UInt32 := do
  let environment : Environment :=
    { dialect := ← IO.getEnv "OXIDE_SCHEMA_DIALECT", config := ← IO.getEnv "OXIDE_SCHEMA_CONFIG" }
  match Invocation.ofArguments? environment args with
  | none =>
    IO.eprintln "usage: [-d DIALECT] [-c CONFIG] [-v] COMMAND FILE..."
    return 2
  | some invocation =>
    let contents ← (inputPaths invocation).mapM readPath
    let outcome := run (fun path => (contents.lookup path).getD (.error .notFound)) invocation
    IO.print outcome.output
    let fault ← match outcome.ending with
      | .writing path content => writePath path content
      | _ => pure none
    let report := outcome.report invocation.verbose fault
    IO.eprint report.errors
    return report.exitCode.toUInt32

end CommandLine

end SchemaDelta

/-- The program. -/
def main (args : List String) : IO UInt32 := SchemaDelta.CommandLine.runProgram args
