import SchemaDelta.Schema.Field
import SchemaDelta.Sql

/-!
# Dialects

The supported SQL dialects, what each of them can do to an existing column, and the native types
and literals it has.
-/

namespace SchemaDelta

/-- A dialect of SQL that migrations can be written in. -/
inductive Dialect where
  | postgres
  | sqlite
  | libsql
deriving DecidableEq

/-- A column type of a database. -/
inductive NativeType where
  | text
  | numeric
  | real
  | integer
  | boolean
  | json
  | jsonb
  | date
  | timestamptz
  | uuid
deriving DecidableEq

namespace NativeType

/-- The type in SQL. -/
def name : NativeType → String
  | text => "TEXT"
  | numeric => "NUMERIC"
  | real => "REAL"
  | integer => "INTEGER"
  | boolean => "BOOLEAN"
  | json => "JSON"
  | jsonb => "JSONB"
  | date => "DATE"
  | timestamptz => "TIMESTAMPTZ"
  | uuid => "UUID"

end NativeType

namespace Dialect

/-- All dialects. -/
def all : List Dialect := [postgres, sqlite, libsql]

/-- The dialect that is meant when none is named. -/
def standard : Dialect := postgres

/-- The name of a dialect. -/
def name : Dialect → String
  | postgres => "postgres"
  | sqlite => "sqlite"
  | libsql => "libsql"

/-- The dialect with exactly this name. -/
def ofName? (name : String) : Option Dialect := all.find? (·.name == name)

/-- Reads a dialect as users write it: in any case, with two more names for the first one. -/
def parse? (text : String) : Option Dialect :=
  let lower := text.toLower
  if lower == "postgresql" || lower == "pg" then some postgres else ofName? lower

/-- Whether a dialect belongs to the family of embedded databases. -/
def isEmbedded : Dialect → Bool
  | postgres => false
  | sqlite => true
  | libsql => true

variable (dialect : Dialect)

/-- Whether access to rows can be restricted by policies. -/
def supportsPolicies : Bool := !dialect.isEmbedded

/-- Whether the type of a column can be changed in place. -/
def supportsAlterColumnType : Bool := !dialect.isEmbedded

/-- Whether `NOT NULL` and `DEFAULT` of an existing column can be changed. -/
def supportsAlterColumnConstraints : Bool := !dialect.isEmbedded

/-- Whether foreign keys are constraints with a name, rather than a part of the column. -/
def usesSeparateForeignKeys : Bool := !dialect.isEmbedded

/-- The literal of a truth value. -/
def booleanLiteral (value : Bool) : String :=
  match dialect.isEmbedded, value with
  | false, true => "TRUE"
  | false, false => "FALSE"
  | true, true => "1"
  | true, false => "0"

/-- The literal of a constant. -/
def constantLiteral : Constant → String
  | .null => "NULL"
  | .bool value => dialect.booleanLiteral value
  | .number value => value.text
  | .text value => Sql.stringLiteral value

/-- What follows `DEFAULT` for a computed default: embedded databases want parentheses. -/
def expressionDefault (sql : String) : String :=
  if dialect.isEmbedded then "(" ++ sql ++ ")" else sql

/-- The native type of a column. -/
def columnType (dialect : Dialect) (type : FieldType) : NativeType :=
  match type, dialect with
  | .number, postgres => .numeric
  | .number, _ => .real
  | .boolean, postgres => .boolean
  | .boolean, _ => .integer
  | .object, postgres => .jsonb
  | .object, libsql => .json
  | .date, postgres => .date
  | .datetime, postgres => .timestamptz
  | .uuid, postgres => .uuid
  | _, _ => .text

/-- The type that values are cast to when they move to a new column. A cast to `JSON` would turn
documents into numbers, so they are copied as text. -/
def copyType (dialect : Dialect) (type : FieldType) : NativeType :=
  match dialect.columnType type with
  | .json => .text
  | native => native

end Dialect

end SchemaDelta
