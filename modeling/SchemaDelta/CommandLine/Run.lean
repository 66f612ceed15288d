import SchemaDelta.CommandLine.Arguments
import SchemaDelta.CommandLine.Log
import SchemaDelta.Json.Printer
import SchemaDelta.Migration.Codec
import SchemaDelta.Migration.Planner

/-!
# Running a command

A command reads the files it names, and prints its result or explains a failure by a chain of
causes. The one thing it may leave behind is a file with the access changes; whether that could be
written decides how the command ends. What files there are and how they behave is not said here:
a command is run with any way of reading and of writing them.
-/

namespace SchemaDelta

namespace CommandLine

/-! ## Files -/

/-- Why a file cannot be read or written. -/
inductive FileFault where
  | notFound
  | permissionDenied
  | notDirectory
  | isDirectory
  | nameTooLong
  /-- The bytes of a file are not those of a text. -/
  | notText
  | other (text : String)
deriving DecidableEq

namespace FileFault

/-- The words of the system for a fault, with its number if it has one. -/
def message : FileFault → String
  | notFound => "No such file or directory (os error 2)"
  | permissionDenied => "Permission denied (os error 13)"
  | notDirectory => "Not a directory (os error 20)"
  | isDirectory => "Is a directory (os error 21)"
  | nameTooLong => "File name too long (os error 36)"
  | notText => "stream did not contain valid UTF-8"
  | other text => text

end FileFault

/-- How files are read: the content of the one at a path, or what prevents reading it. A path that is
read twice gives the same both times. -/
abbrev FileReader := String → Except FileFault String

/-- How files are written: what goes wrong, if anything, as a content is written at a path. What is
at the path after a fault is left open, and so is what a path stands for. -/
abbrev FileWriter := String → String → Option FileFault

/-! ## Failures -/

/-- Why a command failed, with the causes from the outermost to the innermost. -/
structure Failure where
  message : String
  causes : List String := []

namespace Failure

/-- The lines of a cause, the first after one mark and the others after another. -/
def causeLines (first next cause : String) : String :=
  first ++ ("\n" ++ next).intercalate (cause.splitOn "\n")

/-- The causes from a position on, each with its number. -/
def numbered : Nat → List String → List String
  | _, [] => []
  | n, cause :: causes =>
    causeLines ("    " ++ toString n ++ ": ") "       " cause :: numbered (n + 1) causes

/-- The text of a failure. A single cause has no number. -/
def render (failure : Failure) : String :=
  "Error: " ++ failure.message ++
    (match failure.causes with
      | [] => ""
      | [cause] => "\n\nCaused by:\n" ++ causeLines "    " "    " cause
      | causes => "\n\nCaused by:\n" ++ "\n".intercalate (numbered 0 causes)) ++ "\n"

/-- The failure that a schema error leads to. -/
def ofSchemaError (error : SchemaError) : Failure :=
  ⟨error.message, (error.cause?.map CompileError.message).toList⟩

/-- The failure to read a file. -/
def ofFileFault (context path : String) (fault : FileFault) : Failure :=
  ⟨context ++ path, ["IO error on '" ++ path ++ "': " ++ fault.message, fault.message]⟩

/-- What is wrong with a document that cannot be read. A blank one ends where a value is expected,
and the place of its end is given. -/
def documentFault (text : String) : String :=
  if text.toList.all Token.isBlank then
    let line := 1 + text.toList.count '\n'
    let column := (text.toList.reverse.takeWhile (· != '\n')).length
    "EOF while parsing a value at line " ++ toString line ++ " column " ++ toString column
  else "malformed document"

/-- The failure to make something of a document. -/
def ofDocument (context path text : String) : Failure :=
  ⟨context ++ path, ["Serialization error: " ++ documentFault text, documentFault text]⟩

end Failure

/-! ## Loading -/

/-- Reads a file and makes something of it. -/
def load {α : Type} (read : FileReader) (ofText? : String → Option α) (context path : String) :
    Except Failure α :=
  match read path with
  | .error fault => .error (.ofFileFault context path fault)
  | .ok text =>
    match ofText? text with
    | none => .error (.ofDocument context path text)
    | some value => .ok value

/-- Reads a configuration, or takes the usual one if none is named. -/
def loadConfig (read : FileReader) : Option String → Except Failure Config
  | none => .ok {}
  | some path => load read Config.read? "loading config " path

/-- Reads a snapshot and refuses one with violations. -/
def loadSnapshot (read : FileReader) (path : String) : Except Failure Snapshot := do
  let snapshot ← load read Snapshot.read? "loading snapshot " path
  match snapshot.validate with
  | .ok () => return snapshot
  | .error error => .error ⟨"invalid snapshot " ++ path, [error.message]⟩

/-! ## Outcomes -/

/-- How a command ends. One that is to write a file does so after all else. -/
inductive Ending where
  | done
  | failed (failure : Failure)
  | writing (path content : String)

/-- What a command does before it ends, and how it ends. -/
structure Outcome where
  log : List LogLine := []
  output : String := ""
  ending : Ending := .done

namespace Outcome

/-- The outcome of a command that fails before it has printed anything. -/
def fail (failure : Failure) : Outcome := { ending := .failed failure }

/-- The outcome that depends on a result. -/
def ofResult {α : Type} (result : Except Failure α) (outcome : α → Outcome) : Outcome :=
  match result with
  | .error failure => fail failure
  | .ok value => outcome value

end Outcome

/-- The line on what a migration leaves to the user, or on there being nothing to execute. -/
def attentionLines (migration : Migration) : List LogLine :=
  if migration.isEmpty then [info "No changes detected."]
  else if migration.warnings.isEmpty then []
  else [info (toString migration.warnings.length ++ " change(s) need manual attention.")]

/-- Prints a migration, after further lines, and asks for the file with its access changes. -/
def emit (log : List LogLine) (migration : Migration) (accessOut : Option String) : Outcome where
  log := log
  output := migration.sql
  ending :=
    match accessOut with
    | some path => .writing path (AccessChange.listToJson migration.access).pretty
    | none => .done

/-- The outcome of a plan: its steps are logged also if it ends early. -/
def ofPlan (log : List LogLine) (plan : Plan) (dialect : Dialect) (access : List AccessChange)
    (closing : Migration → List LogLine) (accessOut : Option String) : Outcome :=
  let log := log ++ plan.steps.map (stepLine dialect)
  match plan.toMigration dialect access with
  | .error error => { log, ending := .failed (.ofSchemaError error) }
  | .ok migration => emit (log ++ migrationLine migration :: closing migration) migration accessOut

/-- Carries out a command. -/
def perform (read : FileReader) (config : Config) (dialect : Dialect) : Command → Outcome
  | .validate path =>
    .ofResult (loadSnapshot read path) fun snapshot =>
      { log := [info ("Snapshot is valid (" ++ toString snapshot.tables.length ++ " tables).")] }
  | .diff old new =>
    .ofResult (loadSnapshot read old) fun before =>
    .ofResult (loadSnapshot read new) fun after =>
      let diff := Diff.between before after
      { log := comparisonLines before after ++
          (if diff.isEmpty then [info "No changes detected."] else [])
        output := diff.toJson.pretty ++ "\n" }
  | .bootstrap path accessOut =>
    .ofResult (loadSnapshot read path) fun snapshot =>
      let synthesizer : Synthesizer := { config }
      ofPlan [] (synthesizer.bootstrapPlan snapshot dialect) dialect
        (snapshot.tables.map .ofNewTable) (fun _ => []) accessOut
  | .migrate old new accessOut =>
    .ofResult (loadSnapshot read old) fun before =>
    .ofResult (loadSnapshot read new) fun after =>
      let synthesizer : Synthesizer := { config }
      let diff := Diff.between before after
      ofPlan (comparisonLines before after) (synthesizer.synthesisPlan diff after dialect) dialect
        diff.access attentionLines accessOut

/-- Runs a command line: the configuration is read before anything else. -/
def run (read : FileReader) (invocation : Invocation) : Outcome :=
  .ofResult (loadConfig read invocation.config) fun config =>
    perform read config invocation.dialect invocation.command

/-! ## Reports -/

/-- What a command prints, on both streams, and the code it exits with. What it writes at a path is
not part of this, also where the path stands for a stream. -/
structure Report where
  exitCode : Nat
  output : String
  errors : String

/-- The report on an outcome, given why the file it asks for could not be written, if so. Details
are shown only on demand. -/
def Outcome.report (outcome : Outcome) (verbose : Bool) (writeFault : Option FileFault) : Report :=
  let shown := outcome.log.filter fun line => verbose || line.level != .debug
  let log := String.join (shown.map LogLine.render)
  match outcome.ending, writeFault with
  | .done, _ => ⟨0, outcome.output, log⟩
  | .failed failure, _ => ⟨1, outcome.output, log ++ failure.render⟩
  | .writing path _, none =>
    ⟨0, outcome.output, log ++ (info ("Wrote access control: " ++ path)).render⟩
  | .writing path _, some fault =>
    let failure : Failure := ⟨"writing access control to " ++ path, [fault.message]⟩
    ⟨1, outcome.output, log ++ failure.render⟩

/-- What goes wrong as the file that an outcome asks for is written, if it asks for one. -/
def Outcome.writeFault (outcome : Outcome) (write : FileWriter) : Option FileFault :=
  match outcome.ending with
  | .writing path content => write path content
  | _ => none

/-- Runs a command line to its end. -/
def Invocation.report (invocation : Invocation) (read : FileReader) (write : FileWriter) : Report :=
  let outcome := run read invocation
  outcome.report invocation.verbose (outcome.writeFault write)

end CommandLine

end SchemaDelta
