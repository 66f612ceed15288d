import SchemaDelta.Dialect
import SchemaDelta.Schema.Access

/-!
# Statements

A statement is what a migration executes: a change of tables, columns, constraints or policies.
`Statement.render` writes it as SQL; the pieces of SQL are functions of their own, in the namespace
`Sql`. All decisions that depend on the dialect are made before: a statement has native types and
rendered defaults in it.
-/

namespace SchemaDelta

/-- What a column declares about keys and nulls. -/
inductive KeyClause where
  | primaryKey
  | notNull
  | none
deriving DecidableEq

/-- The key clause of a field. A primary key is not declared `NOT NULL` on top. -/
def Field.keyClause (field : Field) : KeyClause :=
  if field.primaryKey then .primaryKey else if field.nullable then .none else .notNull

namespace Sql

/-- The name of the constraint for the foreign key of a column. -/
def foreignKeyName (table column : String) : String := "fk_" ++ table ++ "_" ++ column

/-- The name of the policy for an operation on a table. -/
def policyName (table : String) (operation : Operation) : String :=
  table ++ "_" ++ operation.name

/-- A clause about an action, or nothing. -/
def actionClause (event : String) : Option ReferentialAction → String
  | some action => " ON " ++ event ++ " " ++ action.sql
  | none => ""

/-- The clause that refers to a field of another table, with the actions on its rows. -/
def referencesClause (key : ForeignKey) : String :=
  "REFERENCES " ++ identifier key.table ++ " (" ++ identifier key.field ++ ")" ++
    actionClause "DELETE" key.onDelete ++ actionClause "UPDATE" key.onUpdate

/-- The clause about keys and nulls, or nothing. -/
def keyClause : KeyClause → String
  | .primaryKey => " PRIMARY KEY"
  | .notNull => " NOT NULL"
  | .none => ""

/-- The definition of a column. -/
def columnDefinition (name : String) (type : NativeType) (key : KeyClause)
    (default : Option String) (references : Option ForeignKey) : String :=
  identifier name ++ " " ++ type.name ++ keyClause key ++
    (match default with
      | some sql => " DEFAULT " ++ sql
      | none => "") ++
    (match references with
      | some key => " " ++ referencesClause key
      | none => "")

/-- Creates a table, with each definition on a line of its own. -/
def createTable (table : String) (definitions : List String) : String :=
  "CREATE TABLE " ++ identifier table ++ " (\n    " ++ ",\n    ".intercalate definitions ++ "\n)"

/-- Drops a table, along with what depends on it if asked to. -/
def dropTable (table : String) (cascade : Bool) : String :=
  "DROP TABLE " ++ identifier table ++ (if cascade then " CASCADE" else "")

/-- The beginning of a statement that alters a table. -/
def alterTable (table : String) : String := "ALTER TABLE " ++ identifier table

/-- The beginning of a statement that alters a column. -/
def alterColumn (table column : String) : String :=
  alterTable table ++ " ALTER COLUMN " ++ identifier column

/-- Adds a column to a table, given its definition. -/
def addColumn (table definition : String) : String :=
  alterTable table ++ " ADD COLUMN " ++ definition

/-- Drops a column of a table. -/
def dropColumn (table column : String) : String :=
  alterTable table ++ " DROP COLUMN " ++ identifier column

/-- Gives a column another name. -/
def renameColumn (table column newName : String) : String :=
  alterTable table ++ " RENAME COLUMN " ++ identifier column ++ " TO " ++ identifier newName

/-- Changes the type of a column in place, with its values cast. -/
def alterColumnType (table column type : String) : String :=
  alterColumn table column ++ " TYPE " ++ type ++ " USING " ++ identifier column ++ "::" ++ type

/-- Copies a column into another one, with its values cast. -/
def copyCast (table source target type : String) : String :=
  "UPDATE " ++ identifier table ++ " SET " ++ identifier target ++ " = CAST(" ++
    identifier source ++ " AS " ++ type ++ ")"

/-- Lets a column be null, or forbids it. -/
def alterNullable (table column : String) (nullable : Bool) : String :=
  alterColumn table column ++ (if nullable then " DROP" else " SET") ++ " NOT NULL"

/-- Gives a column a default, in place of one it may have. -/
def setDefault (table column sql : String) : String :=
  alterColumn table column ++ " SET DEFAULT " ++ sql

/-- Takes away the default of a column. -/
def dropDefault (table column : String) : String := alterColumn table column ++ " DROP DEFAULT"

/-- Adds the foreign key of a column as a constraint. -/
def addForeignKey (table column : String) (key : ForeignKey) : String :=
  alterTable table ++ " ADD CONSTRAINT " ++ identifier (foreignKeyName table column) ++
    " FOREIGN KEY (" ++ identifier column ++ ") " ++ referencesClause key

/-- Drops the constraint for the foreign key of a column, which need not be there. -/
def dropForeignKey (table column : String) : String :=
  alterTable table ++ " DROP CONSTRAINT IF EXISTS " ++ identifier (foreignKeyName table column)

/-- Puts the policies of a table into force. -/
def enableRowSecurity (table : String) : String :=
  alterTable table ++ " ENABLE ROW LEVEL SECURITY"

/-- Drops the policy for an operation on a table, which need not be there. -/
def dropPolicy (table : String) (operation : Operation) : String :=
  "DROP POLICY IF EXISTS " ++ identifier (policyName table operation) ++ " ON " ++
    identifier table

/-- The clause by which a policy restricts an operation to rows that satisfy a predicate. -/
def policyClause (predicate : String) : Operation → String
  | .read => "FOR SELECT USING (" ++ predicate ++ ")"
  | .create => "FOR INSERT WITH CHECK (" ++ predicate ++ ")"
  | .update => "FOR UPDATE USING (" ++ predicate ++ ") WITH CHECK (" ++ predicate ++ ")"
  | .delete => "FOR DELETE USING (" ++ predicate ++ ")"

/-- Creates the policy for an operation on a table. There must be none of its name. -/
def createPolicy (table : String) (operation : Operation) (predicate : String) : String :=
  "CREATE POLICY " ++ identifier (policyName table operation) ++ " ON " ++ identifier table ++
    " " ++ policyClause predicate operation

end Sql

/-- A declared default together with its SQL. -/
structure RenderedDefault where
  declared : DefaultValue
  sql : String

/-- The definition of a column. -/
structure Column where
  name : String
  type : NativeType
  key : KeyClause := .none
  default : Option RenderedDefault := none
  references : Option ForeignKey := none

namespace Column

/-- The SQL of the definition. -/
def render (column : Column) : String :=
  Sql.columnDefinition column.name column.type column.key
    (column.default.map RenderedDefault.sql) column.references

end Column

namespace Dialect

variable (dialect : Dialect)

/-- The foreign key that is part of the column of a field. -/
def inlineReference (field : Field) : Option ForeignKey :=
  if dialect.usesSeparateForeignKeys then none else field.foreignKey

/-- The column of a field, with its default rendered. -/
def column (field : Field) (default : Option RenderedDefault) : Column where
  name := field.name
  type := dialect.columnType field.type
  key := field.keyClause
  default := default
  references := dialect.inlineReference field

/-- The definition of the column of a field, for any SQL as its default. -/
def columnDefinition (field : Field) (default : Option String) : String :=
  Sql.columnDefinition field.name (dialect.columnType field.type) field.keyClause default
    (dialect.inlineReference field)

/-- Whether a removed table takes along what depends on it, where that was asked for. -/
def dropsCascade (asked : Bool) : Bool := asked && !dialect.isEmbedded

end Dialect

/-- One statement of a migration. -/
inductive Statement where
  | createTable (table : String) (columns : List Column)
  | dropTable (table : String) (cascade : Bool)
  | addColumn (table : String) (column : Column)
  | dropColumn (table column : String)
  | renameColumn (table column newName : String)
  | alterColumnType (table column : String) (type : NativeType)
  | copyCast (table source target : String) (type : NativeType)
  | alterNullable (table column : String) (nullable : Bool)
  | setDefault (table column : String) (default : RenderedDefault)
  | dropDefault (table column : String)
  | addForeignKey (table column : String) (key : ForeignKey)
  | dropForeignKey (table column : String)
  | enableRowSecurity (table : String)
  | dropPolicy (table : String) (operation : Operation)
  | createPolicy (table : String) (operation : Operation) (predicate : String)

namespace Statement

/-- The SQL of a statement, without a semicolon. -/
def render : Statement → String
  | createTable table columns => Sql.createTable table (columns.map Column.render)
  | dropTable table cascade => Sql.dropTable table cascade
  | addColumn table column => Sql.addColumn table column.render
  | dropColumn table column => Sql.dropColumn table column
  | renameColumn table column newName => Sql.renameColumn table column newName
  | alterColumnType table column type => Sql.alterColumnType table column type.name
  | copyCast table source target type => Sql.copyCast table source target type.name
  | alterNullable table column nullable => Sql.alterNullable table column nullable
  | setDefault table column default => Sql.setDefault table column default.sql
  | dropDefault table column => Sql.dropDefault table column
  | addForeignKey table column key => Sql.addForeignKey table column key
  | dropForeignKey table column => Sql.dropForeignKey table column
  | enableRowSecurity table => Sql.enableRowSecurity table
  | dropPolicy table operation => Sql.dropPolicy table operation
  | createPolicy table operation predicate => Sql.createPolicy table operation predicate

end Statement

end SchemaDelta
