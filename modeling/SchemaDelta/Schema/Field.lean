import SchemaDelta.Constant
import SchemaDelta.Expr

/-!
# Fields

A field has a name, a semantic type, and what a column declares beside its type: nullability, a key
flag, a default and a foreign key.
-/

namespace SchemaDelta

/-- The semantic type of a field. A type that is not known is kept by its name. -/
inductive FieldType where
  | text
  | number
  | boolean
  | object
  | date
  | datetime
  | uuid
  | other (name : String)
deriving DecidableEq

namespace FieldType

/-- The types with a meaning of their own. -/
def known : List FieldType := [text, number, boolean, object, date, datetime, uuid]

/-- The name in documents. -/
def name : FieldType → String
  | text => "text"
  | number => "number"
  | boolean => "boolean"
  | object => "object"
  | date => "date"
  | datetime => "datetime"
  | uuid => "uuid"
  | other name => name

/-- The known type of a name. -/
def ofKnownName? (name : String) : Option FieldType := known.find? (·.name == name)

/-- The type of a name, known or not. -/
def ofName (name : String) : FieldType := (ofKnownName? name).getD (other name)

end FieldType

/-- What happens to a referencing row when the row it refers to is deleted or updated. -/
inductive ReferentialAction where
  | cascade
  | restrict
  | setNull
deriving DecidableEq

namespace ReferentialAction

/-- All actions. -/
def all : List ReferentialAction := [cascade, restrict, setNull]

/-- The name in documents. -/
def name : ReferentialAction → String
  | cascade => "cascade"
  | restrict => "restrict"
  | setNull => "set_null"

/-- The action in SQL. -/
def sql : ReferentialAction → String
  | cascade => "CASCADE"
  | restrict => "RESTRICT"
  | setNull => "SET NULL"

/-- The action of a name. -/
def ofName? (name : String) : Option ReferentialAction := all.find? (·.name == name)

end ReferentialAction

/-- The field that a field refers to, and the actions that keep the reference sound. -/
structure ForeignKey where
  table : String
  field : String
  onDelete : Option ReferentialAction := none
  onUpdate : Option ReferentialAction := none
deriving DecidableEq

/-- The default of a field: a constant, or computed by an expression. -/
inductive DefaultValue where
  | constant (value : Constant)
  | computed (value : Expr)

namespace DefaultValue

/-- Equality of defaults. -/
protected def beq : DefaultValue → DefaultValue → Bool
  | constant x, constant y => x == y
  | computed x, computed y => x == y
  | _, _ => false

instance : BEq DefaultValue := ⟨DefaultValue.beq⟩

end DefaultValue

/-- The declaration of a field. A default of `null` differs from having no default. -/
structure Field where
  name : String
  type : FieldType
  nullable : Bool := true
  primaryKey : Bool := false
  default : Option DefaultValue := none
  foreignKey : Option ForeignKey := none

namespace Field

variable (field : Field)

/-- Makes the field one that is never null. -/
def notNull : Field := { field with nullable := false }

/-- Makes the field a primary key, which is never null. -/
def asPrimaryKey : Field := { field with primaryKey := true, nullable := false }

/-- Gives the field a default, in place of one it may have. -/
def withDefault (value : DefaultValue) : Field := { field with default := some value }

/-- Makes the field refer to another one. -/
def references (key : ForeignKey) : Field := { field with foreignKey := some key }

end Field

end SchemaDelta
