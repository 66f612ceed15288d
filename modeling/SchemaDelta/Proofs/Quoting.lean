import SchemaDelta.Sql

/-!
# Quoted names

Quoted text can be told from what follows it, unless that begins with a delimiter as well. So an
identifier in front of anything else in a statement stands for one name alone, which is read back by
undoubling the delimiters inside.
-/

namespace SchemaDelta

namespace Quoted

variable {delimiter : Char}

theorem double_append_inj {a b s t : List Char} (endsS : s.head? ≠ some delimiter)
    (endsT : t.head? ≠ some delimiter)
    (same : double delimiter a ++ delimiter :: s = double delimiter b ++ delimiter :: t) :
    a = b ∧ s = t := by
  induction a generalizing b with
  | nil =>
    cases b with
    | nil => simpa [double] using same
    | cons c cs =>
      by_cases quoted : c = delimiter
      · simp [double, quoted] at same
        simp [same] at endsS
      · simp [double, quoted] at same
        exact absurd same.1.symm quoted
  | cons c cs ih =>
    by_cases quoted : c = delimiter
    · subst quoted
      cases b with
      | nil =>
        simp [double] at same
        simp [← same] at endsT
      | cons c' cs' =>
        by_cases quoted' : c' = c
        · subst quoted'
          simp [double] at same
          obtain ⟨rfl, rest⟩ := ih same
          exact ⟨rfl, rest⟩
        · simp [double, quoted'] at same
          exact absurd same.1.symm quoted'
    · cases b with
      | nil =>
        simp [double, quoted] at same
      | cons c' cs' =>
        by_cases quoted' : c' = delimiter
        · simp [double, quoted, quoted'] at same
        · simp [double, quoted, quoted'] at same
          rcases same with ⟨rfl, same⟩
          obtain ⟨rfl, rest⟩ := ih same
          exact ⟨rfl, rest⟩

theorem enclose_append_inj {a b : String} {s t : List Char} (endsS : s.head? ≠ some delimiter)
    (endsT : t.head? ≠ some delimiter)
    (same : (enclose delimiter a).toList ++ s = (enclose delimiter b).toList ++ t) :
    a = b ∧ s = t := by
  have letters : double delimiter a.toList ++ delimiter :: s =
      double delimiter b.toList ++ delimiter :: t := by
    simpa [enclose] using same
  obtain ⟨names, rest⟩ := double_append_inj endsS endsT letters
  exact ⟨String.toList_inj.mp names, rest⟩

/-- Reads two delimiters in a row as one. -/
def undouble (delimiter : Char) : List Char → List Char
  | c :: c' :: cs =>
    if c = delimiter ∧ c' = delimiter then delimiter :: undouble delimiter cs
    else c :: undouble delimiter (c' :: cs)
  | cs => cs

theorem undouble_double (delimiter : Char) (cs : List Char) :
    undouble delimiter (double delimiter cs) = cs := by
  induction cs with
  | nil => rfl
  | cons c cs ih =>
    by_cases quoted : c = delimiter
    · simp [double, undouble, quoted, ih]
    · rw [double, if_neg quoted]
      cases doubled : double delimiter cs with
      | nil =>
        rw [doubled] at ih
        rw [← ih]
        rfl
      | cons c' cs' =>
        rw [undouble, if_neg fun pair => quoted pair.1, ← doubled, ih]

/-- Quoted texts stand between delimiters and are read back by undoubling those inside. They can be
told from what follows them, if that does not begin with a delimiter. -/
structure SelfDelimiting (delimiter : Char) (quote : String → String) : Prop where
  between (a : String) : ∃ inside, (quote a).toList = delimiter :: inside ++ [delimiter] ∧
    undouble delimiter inside = a.toList
  append_inj {a b s t : String} (endsS : s.toList.head? ≠ some delimiter)
    (endsT : t.toList.head? ≠ some delimiter) (same : quote a ++ s = quote b ++ t) : a = b ∧ s = t

theorem selfDelimiting_enclose (delimiter : Char) :
    SelfDelimiting delimiter (enclose delimiter) where
  between a := ⟨double delimiter a.toList, by simp [enclose], undouble_double delimiter a.toList⟩
  append_inj endsS endsT same := by
    have letters := congrArg String.toList same
    rw [String.toList_append, String.toList_append] at letters
    obtain ⟨names, rest⟩ := enclose_append_inj endsS endsT letters
    exact ⟨names, String.toList_inj.mp rest⟩

theorem SelfDelimiting.injective {quote : String → String} (q : SelfDelimiting delimiter quote) :
    Function.Injective quote := by
  intro a b same
  exact (q.append_inj (s := "") (t := "") (by simp) (by simp) (by simpa using same)).1

end Quoted

theorem Sql.identifier_append_inj {a b : String} {s t : List Char} (endsS : s.head? ≠ some '"')
    (endsT : t.head? ≠ some '"')
    (same : (identifier a).toList ++ s = (identifier b).toList ++ t) : a = b ∧ s = t :=
  Quoted.enclose_append_inj endsS endsT same

end SchemaDelta
