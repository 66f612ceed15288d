import SchemaDelta.Text.Quoted

/-!
# Names and texts in SQL
-/

namespace SchemaDelta

namespace Sql

/-- A name as an identifier. -/
def identifier (name : String) : String := Quoted.enclose '"' name

/-- A text as a string literal. -/
def stringLiteral (text : String) : String := Quoted.enclose (Char.ofNat 39) text

end Sql

end SchemaDelta
