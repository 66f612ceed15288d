import SchemaDelta.Proofs.Quoting
import SchemaDelta.Statement

/-!
# Names in statements

All statements of one kind have the same words, and the names between them are quoted. So the names
can be read off from left to right, each up to the words behind it. Main statement: quoted names and
texts delimit themselves, and two statements of one kind with the same text are about the same table
and the same columns. That holds for constraints as well, whose name is put together from names that
are not quoted: by then the table is known.
-/

namespace SchemaDelta

namespace Sql

open Quoted

theorem selfDelimiting_identifier : SelfDelimiting '"' identifier := selfDelimiting_enclose '"'

variable {a b s t words table table' column column' : String}

/-- Words that do not begin with a quote tell where the name before them ends. -/
theorem identifier_words_inj (unquoted : words.toList.head?.any (· != '"'))
    (same : identifier a ++ (words ++ s) = identifier b ++ (words ++ t)) : a = b ∧ s = t := by
  have ends (rest : String) : (words ++ rest).toList.head? ≠ some '"' := by
    cases letters : words.toList with
    | nil => simp [letters] at unquoted
    | cons c cs => simpa [letters] using unquoted
  obtain ⟨names, rest⟩ := selfDelimiting_identifier.append_inj (ends s) (ends t) same
  exact ⟨names, (String.append_right_inj words).mp rest⟩

theorem alterTable_words_inj (unquoted : words.toList.head?.any (· != '"'))
    (same : alterTable table ++ (words ++ s) = alterTable table' ++ (words ++ t)) :
    table = table' ∧ s = t := by
  rw [alterTable, alterTable, String.append_assoc, String.append_assoc,
    String.append_right_inj] at same
  exact identifier_words_inj unquoted same

/-- The name of a constraint tells the column, if the table is known. -/
theorem foreignKeyName_injective (table : String) : Function.Injective (foreignKeyName table) := by
  intro x y same
  rwa [foreignKeyName, foreignKeyName, String.append_right_inj] at same

theorem dropTable_inj {cascade cascade' : Bool}
    (same : dropTable table cascade = dropTable table' cascade') : table = table' := by
  have ends (cascade : Bool) : (if cascade then " CASCADE" else "").toList.head? ≠ some '"' := by
    cases cascade <;> decide
  rw [dropTable, dropTable, String.append_assoc, String.append_assoc,
    String.append_right_inj] at same
  exact (selfDelimiting_identifier.append_inj (ends cascade) (ends cascade') same).1

theorem dropColumn_inj (same : dropColumn table column = dropColumn table' column') :
    table = table' ∧ column = column' := by
  unfold dropColumn at same
  simp only [String.append_assoc] at same
  obtain ⟨tables, same⟩ := alterTable_words_inj (by decide) same
  exact ⟨tables, selfDelimiting_identifier.injective same⟩

theorem renameColumn_inj {newName newName' : String}
    (same : renameColumn table column newName = renameColumn table' column' newName') :
    table = table' ∧ column = column' ∧ newName = newName' := by
  unfold renameColumn at same
  simp only [String.append_assoc] at same
  obtain ⟨tables, same⟩ := alterTable_words_inj (by decide) same
  obtain ⟨columns, same⟩ := identifier_words_inj (by decide) same
  exact ⟨tables, columns, selfDelimiting_identifier.injective same⟩

theorem addForeignKey_inj {key key' : ForeignKey}
    (same : addForeignKey table column key = addForeignKey table' column' key') :
    table = table' ∧ column = column' := by
  unfold addForeignKey at same
  simp only [String.append_assoc] at same
  obtain ⟨rfl, same⟩ := alterTable_words_inj (by decide) same
  obtain ⟨-, same⟩ := identifier_words_inj (by decide) same
  obtain ⟨columns, -⟩ := identifier_words_inj (by decide) same
  exact ⟨rfl, columns⟩

theorem dropForeignKey_inj (same : dropForeignKey table column = dropForeignKey table' column') :
    table = table' ∧ column = column' := by
  unfold dropForeignKey at same
  simp only [String.append_assoc] at same
  obtain ⟨rfl, same⟩ := alterTable_words_inj (by decide) same
  have names := selfDelimiting_identifier.injective same
  exact ⟨rfl, foreignKeyName_injective table names⟩

theorem copyCast_inj {source source' target target' type type' : String}
    (same : copyCast table source target type = copyCast table' source' target' type') :
    table = table' ∧ source = source' ∧ target = target' := by
  unfold copyCast at same
  simp only [String.append_assoc, String.append_right_inj] at same
  obtain ⟨tables, same⟩ := identifier_words_inj (by decide) same
  obtain ⟨targets, same⟩ := identifier_words_inj (by decide) same
  obtain ⟨sources, -⟩ := identifier_words_inj (by decide) same
  exact ⟨tables, sources, targets⟩

theorem alterNullable_inj {nullable nullable' : Bool}
    (same : alterNullable table column nullable = alterNullable table' column' nullable') :
    table = table' ∧ column = column' := by
  have ends (nullable : Bool) :
      ((if nullable then " DROP" else " SET") ++ " NOT NULL").toList.head? ≠ some '"' := by
    cases nullable <;> decide
  unfold alterNullable alterColumn at same
  simp only [String.append_assoc] at same
  obtain ⟨tables, same⟩ := alterTable_words_inj (by decide) same
  exact ⟨tables, (selfDelimiting_identifier.append_inj (ends nullable) (ends nullable') same).1⟩

end Sql

/-- Quoted names and texts are read back by undoubling, and can be told from what follows them. So
the text of a statement tells the table and the columns that it was made for. -/
theorem quoted_names_tell_places :
    Quoted.SelfDelimiting '"' Sql.identifier ∧
    Quoted.SelfDelimiting (Char.ofNat 39) Sql.stringLiteral ∧
    (∀ table table' cascade cascade',
      Sql.dropTable table cascade = Sql.dropTable table' cascade' → table = table') ∧
    (∀ table table' column column',
      Sql.dropColumn table column = Sql.dropColumn table' column' →
        table = table' ∧ column = column') ∧
    (∀ table table' column column' newName newName',
      Sql.renameColumn table column newName = Sql.renameColumn table' column' newName' →
        table = table' ∧ column = column' ∧ newName = newName') ∧
    (∀ table table' column column' key key',
      Sql.addForeignKey table column key = Sql.addForeignKey table' column' key' →
        table = table' ∧ column = column') ∧
    (∀ table table' column column',
      Sql.dropForeignKey table column = Sql.dropForeignKey table' column' →
        table = table' ∧ column = column') ∧
    (∀ table table' source source' target target' type type',
      Sql.copyCast table source target type = Sql.copyCast table' source' target' type' →
        table = table' ∧ source = source' ∧ target = target') ∧
    (∀ table table' column column' nullable nullable',
      Sql.alterNullable table column nullable = Sql.alterNullable table' column' nullable' →
        table = table' ∧ column = column') :=
  ⟨Sql.selfDelimiting_identifier, Quoted.selfDelimiting_enclose _,
    fun _ _ _ _ => Sql.dropTable_inj, fun _ _ _ _ => Sql.dropColumn_inj,
    fun _ _ _ _ _ _ => Sql.renameColumn_inj, fun _ _ _ _ _ _ => Sql.addForeignKey_inj,
    fun _ _ _ _ => Sql.dropForeignKey_inj, fun _ _ _ _ _ _ _ _ => Sql.copyCast_inj,
    fun _ _ _ _ _ _ => Sql.alterNullable_inj⟩

/-- The name of a constraint alone does not tell the column. -/
example :
    Sql.foreignKeyName "a_b" "c" = Sql.foreignKeyName "a" "b_c" ∧
      Sql.dropForeignKey "a_b" "c" ≠ Sql.dropForeignKey "a" "b_c" := by
  decide

end SchemaDelta
