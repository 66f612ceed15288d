import SchemaDelta.CommandLine.Run
import SchemaDelta.Proofs.Expressions.Compiled

/-!
# What a command prints

A command prints its whole result or nothing: whatever is wrong with the configuration, the
snapshots or the plan is found before anything is printed. Only the file with the access changes is
written afterwards, so a command that cannot write it fails with its result printed. All this is so
however files are read, and whatever comes of writing one.
-/

namespace SchemaDelta

namespace CommandLine

/-! ## Results -/

namespace FileReader

variable (read : FileReader)

/-- A snapshot is read from the file at a path, and there is nothing wrong with it. -/
def HasSnapshot (path : String) (snapshot : Snapshot) : Prop :=
  ∃ text, read path = .ok text ∧ Snapshot.read? text = some snapshot ∧ snapshot.validate = .ok ()

/-- A configuration is read from the file at a path, or is the usual one if no path is given. -/
def HasConfig : Option String → Config → Prop
  | none, config => config = {}
  | some path, config => ∃ text, read path = .ok text ∧ Config.read? text = some config

end FileReader

/-- The file that the access changes of a migration are written to, with its content. -/
def accessFile (migration : Migration) (path : String) : String × String :=
  (path, (AccessChange.listToJson migration.access).pretty)

/-- What a command that has all it needs prints, and the file it writes. -/
inductive Yields (read : FileReader) (config : Config) (dialect : Dialect) :
    Command → String → Option (String × String) → Prop
  | validate {path : String} {snapshot : Snapshot}
      (loaded : read.HasSnapshot path snapshot) :
      Yields read config dialect (.validate path) "" none
  | diff {old new : String} {before after : Snapshot}
      (loadedBefore : read.HasSnapshot old before)
      (loadedAfter : read.HasSnapshot new after) :
      Yields read config dialect (.diff old new)
        ((Diff.between before after).toJson.pretty ++ "\n") none
  | bootstrap {path : String} {accessOut : Option String} {snapshot : Snapshot}
      {migration : Migration} (loaded : read.HasSnapshot path snapshot)
      (made : ({ config } : Synthesizer).bootstrap snapshot dialect = .ok migration) :
      Yields read config dialect (.bootstrap path accessOut) migration.sql
        (accessOut.map (accessFile migration))
  | migrate {old new : String} {accessOut : Option String} {before after : Snapshot}
      {migration : Migration} (loadedBefore : read.HasSnapshot old before)
      (loadedAfter : read.HasSnapshot new after)
      (made : ({ config } : Synthesizer).migrate before after dialect = .ok migration) :
      Yields read config dialect (.migrate old new accessOut) migration.sql
        (accessOut.map (accessFile migration))

/-- What a use of the command line comes to. -/
def Invocation.Yields (invocation : Invocation) (read : FileReader) (output : String)
    (file : Option (String × String)) : Prop :=
  ∃ config, read.HasConfig invocation.config config ∧
    CommandLine.Yields read config invocation.dialect invocation.command output file

/-! ## Loading -/

section Loading

variable {read : FileReader} {path : String} {snapshot : Snapshot} {config : Config}

theorem load_eq_ok_iff {α : Type} {ofText? : String → Option α} {context : String} {value : α} :
    load read ofText? context path = .ok value ↔
      ∃ text, read path = .ok text ∧ ofText? text = some value := by
  unfold load
  cases read path with
  | error fault => simp
  | ok text => cases made : ofText? text <;> simp [made]

theorem loadConfig_eq_ok_iff {path : Option String} :
    loadConfig read path = .ok config ↔ read.HasConfig path config := by
  cases path with
  | none => simp [loadConfig, FileReader.HasConfig, eq_comm]
  | some path => exact load_eq_ok_iff

theorem loadSnapshot_eq_ok_iff :
    loadSnapshot read path = .ok snapshot ↔ read.HasSnapshot path snapshot := by
  simp only [loadSnapshot, FileReader.HasSnapshot, bind_eq_ok_iff, load_eq_ok_iff]
  constructor
  · rintro ⟨value, ⟨text, present, made⟩, checked⟩
    cases accepted : value.validate with
    | error error =>
      rw [accepted] at checked
      cases checked
    | ok _ =>
      rw [accepted] at checked
      cases checked
      exact ⟨text, present, made, accepted⟩
  · rintro ⟨text, present, made, accepted⟩
    exact ⟨snapshot, ⟨text, present, made⟩, by rw [accepted]; rfl⟩

end Loading

/-! ## Outcomes -/

/-- The end of a command that has printed its result. -/
def Ending.ofFile : Option (String × String) → Ending
  | none => .done
  | some (path, content) => .writing path content

namespace Outcome

/-- A command prints a result and asks for a file. -/
structure Delivers (outcome : Outcome) (output : String) (file : Option (String × String)) :
    Prop where
  output : outcome.output = output
  ending : outcome.ending = .ofFile file

/-- A command ends with nothing printed. -/
structure Fails (outcome : Outcome) : Prop where
  output : outcome.output = ""
  ending : ∃ failure, outcome.ending = .failed failure

/-- What depends on a result that is not there fails. -/
theorem fails_or_ofResult {α : Type} (result : Except Failure α) (outcome : α → Outcome) :
    (ofResult result outcome).Fails ∨
      ∃ value, result = .ok value ∧ ofResult result outcome = outcome value := by
  cases result with
  | error failure => exact .inl ⟨rfl, failure, rfl⟩
  | ok value => exact .inr ⟨value, rfl, rfl⟩

end Outcome

section Plans

variable {log : List LogLine} {plan : Plan} {dialect : Dialect} {access : List AccessChange}
  {closing : Migration → List LogLine} {accessOut : Option String}

theorem delivers_ofPlan {migration : Migration}
    (made : plan.toMigration dialect access = .ok migration) :
    (ofPlan log plan dialect access closing accessOut).Delivers migration.sql
      (accessOut.map (accessFile migration)) := by
  unfold ofPlan
  rw [made]
  cases accessOut <;> exact ⟨rfl, rfl⟩

theorem fails_ofPlan {error : SchemaError} (made : plan.toMigration dialect access = .error error) :
    (ofPlan log plan dialect access closing accessOut).Fails := by
  unfold ofPlan
  rw [made]
  exact ⟨rfl, _, rfl⟩

end Plans

variable {read : FileReader} {config : Config} {dialect : Dialect} {output : String}
  {file : Option (String × String)}

theorem delivers_of_yields {command : Command}
    (yields : Yields read config dialect command output file) :
    (perform read config dialect command).Delivers output file := by
  cases yields with
  | validate loaded =>
    simp only [perform, loadSnapshot_eq_ok_iff.mpr loaded, Outcome.ofResult]
    exact ⟨rfl, rfl⟩
  | diff loadedBefore loadedAfter =>
    simp only [perform, loadSnapshot_eq_ok_iff.mpr loadedBefore,
      loadSnapshot_eq_ok_iff.mpr loadedAfter, Outcome.ofResult]
    exact ⟨rfl, rfl⟩
  | bootstrap loaded made =>
    simp only [perform, loadSnapshot_eq_ok_iff.mpr loaded, Outcome.ofResult]
    exact delivers_ofPlan made
  | migrate loadedBefore loadedAfter made =>
    simp only [perform, loadSnapshot_eq_ok_iff.mpr loadedBefore,
      loadSnapshot_eq_ok_iff.mpr loadedAfter, Outcome.ofResult]
    exact delivers_ofPlan made

/-- A command fails unless it has all it needs. -/
theorem fails_or_yields (read : FileReader) (config : Config) (dialect : Dialect)
    (command : Command) :
    (perform read config dialect command).Fails ∨
      ∃ output file, Yields read config dialect command output file := by
  cases command with
  | validate path =>
    refine (Outcome.fails_or_ofResult _ _).imp_right ?_
    rintro ⟨snapshot, loaded, -⟩
    exact ⟨_, _, .validate (loadSnapshot_eq_ok_iff.mp loaded)⟩
  | diff old new =>
    rcases Outcome.fails_or_ofResult (loadSnapshot read old) _ with
      fails | ⟨before, loadedBefore, continues⟩
    · exact .inl fails
    · rw [perform, continues]
      refine (Outcome.fails_or_ofResult _ _).imp_right ?_
      rintro ⟨after, loadedAfter, -⟩
      exact ⟨_, _, .diff (loadSnapshot_eq_ok_iff.mp loadedBefore)
        (loadSnapshot_eq_ok_iff.mp loadedAfter)⟩
  | bootstrap path accessOut =>
    rcases Outcome.fails_or_ofResult (loadSnapshot read path) _ with
      fails | ⟨snapshot, loaded, continues⟩
    · exact .inl fails
    · rw [perform, continues]
      cases made : ({ config } : Synthesizer).bootstrap snapshot dialect with
      | error error => exact .inl (fails_ofPlan made)
      | ok migration => exact .inr ⟨_, _, .bootstrap (loadSnapshot_eq_ok_iff.mp loaded) made⟩
  | migrate old new accessOut =>
    rcases Outcome.fails_or_ofResult (loadSnapshot read old) _ with
      fails | ⟨before, loadedBefore, continuesBefore⟩
    · exact .inl fails
    · rw [perform, continuesBefore]
      rcases Outcome.fails_or_ofResult (loadSnapshot read new) _ with
        fails | ⟨after, loadedAfter, continues⟩
      · exact .inl fails
      · rw [continues]
        cases made : ({ config } : Synthesizer).migrate before after dialect with
        | error error => exact .inl (fails_ofPlan made)
        | ok migration =>
          exact .inr ⟨_, _, .migrate (loadSnapshot_eq_ok_iff.mp loadedBefore)
            (loadSnapshot_eq_ok_iff.mp loadedAfter) made⟩

variable {invocation : Invocation}

theorem delivers_run (yields : invocation.Yields read output file) :
    (run read invocation).Delivers output file := by
  obtain ⟨config, loaded, yields⟩ := yields
  simp only [run, loadConfig_eq_ok_iff.mpr loaded, Outcome.ofResult]
  exact delivers_of_yields yields

theorem fails_run (lacking : ∀ output file, ¬ invocation.Yields read output file) :
    (run read invocation).Fails := by
  rcases Outcome.fails_or_ofResult (loadConfig read invocation.config) _ with
    fails | ⟨config, loaded, continues⟩
  · exact fails
  · rw [run, continues]
    refine (fails_or_yields read config invocation.dialect invocation.command).resolve_right ?_
    rintro ⟨output, file, yields⟩
    exact lacking output file ⟨config, loadConfig_eq_ok_iff.mp loaded, yields⟩

/-! ## Reports -/

section Reports

variable (write : FileWriter)

theorem report_of_fails (fails : (run read invocation).Fails) :
    (invocation.report read write).exitCode = 1 ∧ (invocation.report read write).output = "" := by
  obtain ⟨silent, failure, ending⟩ := fails
  simp only [Invocation.report, Outcome.report, ending]
  exact ⟨trivial, silent⟩

/-- The result is printed whatever comes of writing the file; that decides only the exit code. -/
theorem report_of_delivers (delivers : (run read invocation).Delivers output file) :
    (invocation.report read write).output = output ∧
      ((invocation.report read write).exitCode = 0 ∧
          (∀ path content, file = some (path, content) → write path content = none) ∨
        (invocation.report read write).exitCode = 1 ∧
          ∃ path content fault, file = some (path, content) ∧ write path content = some fault) := by
  obtain ⟨printed, ending⟩ := delivers
  simp only [Invocation.report, Outcome.report, Outcome.writeFault, ending]
  rcases file with - | ⟨path, content⟩
  · exact ⟨printed, .inl ⟨rfl, nofun⟩⟩
  · cases attempt : write path content with
    | none =>
      simp only [Ending.ofFile, attempt]
      refine ⟨printed, .inl ⟨trivial, ?_⟩⟩
      rintro _ _ ⟨⟩
      exact attempt
    | some fault =>
      simp only [Ending.ofFile, attempt]
      exact ⟨printed, .inr ⟨trivial, path, content, fault, rfl, attempt⟩⟩

end Reports

/-- A command line succeeds with its whole result printed and the file it asks for written, or fails
with nothing printed because it lacks something, or fails with its whole result printed because of a
fault in writing the file. -/
theorem command_prints_result_or_nothing (read : FileReader) (write : FileWriter)
    (invocation : Invocation) :
    let report := invocation.report read write
    (report.exitCode = 0 ∧ ∃ file, invocation.Yields read report.output file ∧
      ∀ path content, file = some (path, content) → write path content = none) ∨
    (report.exitCode = 1 ∧ report.output = "" ∧
      ∀ output file, ¬ invocation.Yields read output file) ∨
    (report.exitCode = 1 ∧ ∃ path content fault,
      invocation.Yields read report.output (some (path, content)) ∧
        write path content = some fault) := by
  intro report
  by_cases complete : ∃ output file, invocation.Yields read output file
  case neg =>
    have lacking : ∀ output file, ¬ invocation.Yields read output file :=
      fun output file yields => complete ⟨output, file, yields⟩
    obtain ⟨failed, silent⟩ := report_of_fails write (fails_run lacking)
    exact .inr (.inl ⟨failed, silent, lacking⟩)
  case pos =>
    obtain ⟨output, file, yields⟩ := complete
    obtain ⟨rfl, ⟨succeeded, written⟩ | ⟨failed, path, content, fault, rfl, faulty⟩⟩ :=
      report_of_delivers write (delivers_run yields)
    · exact .inl ⟨succeeded, file, yields, written⟩
    · exact .inr (.inr ⟨failed, path, content, fault, yields, faulty⟩)

/-- A text that holds the snapshot of a table. -/
def shelfText : String := "[[[\"t\",[[\"c\",\"text\"]]]]]"

/-- The snapshot. -/
def shelfSnapshot : Snapshot where
  tables := [{ name := "t", fields := [{ name := "c", type := .text }] }]

theorem read?_shelfText : Snapshot.read? shelfText = some shelfSnapshot := by
  have tokens : Token.ofText? shelfText = some [
      .openArray, .openArray, .openArray, .string (some "t"), .comma, .openArray, .openArray,
      .string (some "c"), .comma, .string (some "text"), .closeArray, .closeArray, .closeArray,
      .closeArray, .closeArray] := by
    decide +kernel
  rw [Snapshot.read?, Json.read?, Tree.ofText?, tokens]
  rfl

/-- The text in one file, and no other file. -/
def shelf : FileReader := fun path => if path = "s" then .ok shelfText else .error .notFound

theorem shelf_hasSnapshot : shelf.HasSnapshot "s" shelfSnapshot :=
  ⟨shelfText, rfl, read?_shelfText, rfl⟩

/-- Every path but that of the directory itself can be written. -/
def shelfWriter : FileWriter := fun path _ => if path = "." then some .isDirectory else none

/-- The command line that creates the table, and asks for a file in place of the directory. -/
def misdirected : Invocation := ⟨.sqlite, none, false, .bootstrap "s" (some ".")⟩

/-- A command that fails has printed its result. -/
theorem command_prints_before_it_fails :
    (misdirected.report shelf shelfWriter).exitCode = 1 ∧
      (misdirected.report shelf shelfWriter).output =
        "CREATE TABLE \"t\" (\n    \"c\" TEXT\n);\n" := by
  obtain ⟨migration, made, script⟩ : ∃ migration : Migration,
      ({} : Synthesizer).bootstrap shelfSnapshot .sqlite = .ok migration ∧
        migration.sql = "CREATE TABLE \"t\" (\n    \"c\" TEXT\n);\n" := ⟨_, rfl, by decide +kernel⟩
  have yields : misdirected.Yields shelf migration.sql (some (accessFile migration ".")) :=
    ⟨{}, rfl, .bootstrap shelf_hasSnapshot made⟩
  obtain ⟨printed, ⟨-, written⟩ | ⟨failed, -⟩⟩ :=
    report_of_delivers shelfWriter (delivers_run yields)
  · exact absurd (written _ _ rfl) nofun
  · exact ⟨failed, printed.trans script⟩

end CommandLine

end SchemaDelta
