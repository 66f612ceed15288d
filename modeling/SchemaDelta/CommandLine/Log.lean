import SchemaDelta.Migration
import SchemaDelta.Text.Visible

/-!
# Log

Lines about the work under way, for the error stream. Details are at level `debug`.
-/

namespace SchemaDelta

namespace CommandLine

/-- The levels of a log, the most detailed first. -/
inductive Level where
  | debug
  | info
  | warn
deriving DecidableEq

namespace Level

/-- The name of a level, in five columns. -/
def label : Level → String
  | debug => "DEBUG"
  | info => " INFO"
  | warn => " WARN"

end Level

/-- A line of the log: what it says, and particulars under their keys. -/
structure LogLine where
  level : Level
  message : String
  fields : List (String × String) := []

namespace LogLine

/-- A character of a message. One that could make a terminal do something is written by its
number. -/
def messageChar (c : Char) : String :=
  let n := c.toNat
  if n ∈ [0x07, 0x08, 0x0C, 0x1B, 0x7F] then
    "\\x" ++ String.ofList [Nat.digitChar (n / 16), Nat.digitChar (n % 16)]
  else if 0x80 ≤ n ∧ n ≤ 0x9F then
    "\\u\x7b" ++ String.ofList (Nat.toDigits 16 n) ++ "\x7d"
  else String.ofList [c]

/-- The text of a message on a terminal. -/
def messageText (message : String) : String := String.join (message.toList.map messageChar)

/-- The text of a line, at its level. Particulars are not escaped. -/
def render (line : LogLine) : String :=
  line.level.label ++ " " ++ messageText line.message ++
    String.join (line.fields.map fun (key, value) => " " ++ key ++ "=" ++ value) ++ "\n"

end LogLine

/-- A line about a detail. -/
def debug (message : String) (fields : List (String × String)) : LogLine :=
  ⟨.debug, message, fields⟩

/-- A line about a result. -/
def info (message : String) : LogLine := ⟨.info, message, []⟩

/-- A character inside quotes. One that is not visible is written by its number. -/
def quotedChar (c : Char) : String :=
  if c = '"' then "\\\""
  else if c = '\\' then "\\\\"
  else if c = '\n' then "\\n"
  else if c = '\r' then "\\r"
  else if c = '\t' then "\\t"
  else if c.toNat = 0 then "\\0"
  else if isVisible c then String.ofList [c]
  else "\\u\x7b" ++ String.ofList (Nat.toDigits 16 c.toNat) ++ "\x7d"

/-- A text in quotes, on one line. -/
def quotedText (s : String) : String := "\"" ++ String.join (s.toList.map quotedChar) ++ "\""

/-- The line about a step of a plan. -/
def stepLine (dialect : Dialect) : Step → LogLine
  | .execute statement => debug "statement" [("sql", statement.render)]
  | .warn warning => ⟨.warn, warning.message, [("dialect", dialect.name)]⟩
  | .noteRebuild table column temporary =>
    debug "rebuilding column"
      [("table", quotedText table), ("column", quotedText column), ("temp", temporary)]
  | .notePolicies table count =>
    debug "policy block" [("table", table), ("count", toString count)]

/-- The line about a complete migration. -/
def migrationLine (migration : Migration) : LogLine where
  level := .info
  message := "synthesized migration"
  fields := [("dialect", migration.dialect.name),
    ("statements", toString migration.statements.length),
    ("warnings", toString migration.warnings.length)]

/-- The line about a modified table. -/
def modificationLine (m : TableModification) : LogLine :=
  debug "table modified"
    [("table", m.table), ("added", toString m.fieldsAdded.length),
      ("removed", toString m.fieldsRemoved.length),
      ("modified", toString m.fieldsModified.length),
      ("access_control_changed", if m.accessChanged then "true" else "false")]

/-- The lines about a comparison: the removed tables, and then the new and modified ones in the
order of the new snapshot. -/
def comparisonLines (before after : Snapshot) : List LogLine :=
  (Diff.between before after).removed.map
    (fun table => debug "table removed" [("table", table.name)]) ++
  after.tables.filterMap fun table =>
    match before.lastTable? table.name with
    | none => some (debug "table added" [("table", table.name)])
    | some old => (TableModification.between? old table).map modificationLine

end CommandLine

end SchemaDelta
