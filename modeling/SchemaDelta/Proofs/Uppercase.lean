import Mathlib.Data.List.Basic
import Mathlib.Data.Nat.Bitwise
import SchemaDelta.Text.Uppercase

/-!
# Text in upper case stays as it is

No character that an upper case consists of has another upper case. This is checked on the tables,
which are taken as sets of code points: those that are replaced and those that replace them have
none in common. So a text in upper case is its own upper case.
-/

namespace SchemaDelta

namespace Uppercase

/-! ## Sets of numbers -/

/-- A set of numbers as the number that has these bits. -/
def bits (numbers : List Nat) : Nat := numbers.foldr (fun n set => set ||| 1 <<< n) 0

theorem testBit_bits {numbers : List Nat} {n : Nat} :
    (bits numbers).testBit n = true ↔ n ∈ numbers := by
  induction numbers with
  | nil => simp [bits]
  | cons m numbers ih =>
    have first : (1 <<< m : Nat).testBit n = true ↔ n = m := by
      rw [Nat.one_shiftLeft, Nat.testBit_two_pow, decide_eq_true_iff, eq_comm]
    have step : bits (m :: numbers) = bits numbers ||| 1 <<< m := rfl
    rw [step, Nat.testBit_or, Bool.or_eq_true, first, ih, List.mem_cons, or_comm]

/-- Two sets without a common bit have no common number. -/
theorem disjoint_of_bits {xs ys : List Nat} (apart : bits xs &&& bits ys = 0) :
    xs.Disjoint ys := by
  intro n left right
  have both : (bits xs &&& bits ys).testBit n = true := by
    rw [Nat.testBit_and, testBit_bits.mpr left, testBit_bits.mpr right, Bool.and_self]
  rw [apart, Nat.zero_testBit] at both
  cases both

/-! ## The tables -/

/-- The characters of a run, each with its upper case. -/
def Run.mappings (run : Run) : List (Nat × Nat) :=
  (List.range ((run.last - run.first) / run.step + 1)).map fun i =>
    (run.first + i * run.step, run.upper + i * run.step)

/-- The code points that have an upper case of their own. -/
def sources : List Nat :=
  (runs.flatMap fun run => run.mappings.map Prod.fst) ++ expansions.map Prod.fst

/-- The code points that upper cases consist of. -/
def targets : List Nat :=
  (runs.flatMap fun run => run.mappings.map Prod.snd) ++ expansions.flatMap Prod.snd

/-- What replaces a character is not replaced itself. -/
theorem sources_disjoint_targets : sources.Disjoint targets :=
  disjoint_of_bits (by decide +kernel)

theorem isValidChar_of_mem_targets : ∀ n ∈ targets, n.isValidChar := by decide +kernel

theorem Run.mem_mappings {run : Run} {n : Nat} (contained : run.contains n = true) :
    (n, run.upper + (n - run.first)) ∈ run.mappings := by
  simp only [contains, Bool.and_eq_true, decide_eq_true_eq, beq_iff_eq] at contained
  obtain ⟨⟨first, last⟩, multiple⟩ := contained
  have exact : (n - run.first) / run.step * run.step = n - run.first :=
    Nat.div_mul_cancel (Nat.dvd_of_mod_eq_zero multiple)
  refine List.mem_map.mpr ⟨(n - run.first) / run.step, ?_, ?_⟩
  · rw [List.mem_range, Nat.lt_succ_iff]
    exact Nat.div_le_div_right (by omega)
  · rw [exact, Nat.add_sub_cancel' first]

/-! ## Characters -/

/-- A character outside the tables stands for itself. -/
theorem ofChar_of_not_mem_sources {c : Char} (settled : c.toNat ∉ sources) : ofChar c = [c] := by
  obtain ⟨outsideRuns, outsideExpansions⟩ := not_or.mp (mt List.mem_append.mpr settled)
  have noExpansion : expansions.lookup c.toNat = none := by
    rw [List.lookup_eq_none_iff]
    intro expansion member
    rw [bne_iff_ne]
    exact fun same => outsideExpansions (same ▸ List.mem_map_of_mem member)
  have noRun : runs.find? (·.contains c.toNat) = none := by
    rw [List.find?_eq_none]
    intro run member contained
    have mapping := run.mem_mappings contained
    exact outsideRuns (List.mem_flatMap.mpr ⟨run, member, List.mem_map_of_mem mapping⟩)
  simp only [ofChar, noExpansion, noRun]

/-- The characters of an upper case are the character itself, or they are targets. -/
theorem ofChar_eq (c : Char) :
    ofChar c = [c] ∨ ∃ upper : List Nat, upper ⊆ targets ∧ ofChar c = upper.map Char.ofNat := by
  unfold ofChar
  cases expanded : expansions.lookup c.toNat with
  | some upper =>
    obtain ⟨first, last, split, -⟩ := List.lookup_eq_some_iff.mp expanded
    have member : (c.toNat, upper) ∈ expansions := by rw [split]; simp
    refine .inr ⟨upper, fun n inside => ?_, rfl⟩
    exact List.mem_append_right _ (List.mem_flatMap.mpr ⟨_, member, inside⟩)
  | none =>
    cases found : runs.find? (·.contains c.toNat) with
    | none => exact .inl rfl
    | some run =>
      have member := List.mem_of_find?_eq_some found
      have contained : run.contains c.toNat = true := by simpa using List.find?_some found
      have mapping := run.mem_mappings contained
      refine .inr ⟨[run.upper + (c.toNat - run.first)], fun n inside => ?_, rfl⟩
      obtain rfl := List.mem_singleton.mp inside
      exact List.mem_append_left _
        (List.mem_flatMap.mpr ⟨run, member, List.mem_map.mpr ⟨_, mapping, rfl⟩⟩)

/-- A character that is a target stands for itself. -/
theorem ofChar_ofNat {n : Nat} (target : n ∈ targets) : ofChar (Char.ofNat n) = [Char.ofNat n] := by
  have code : (Char.ofNat n).toNat = n := by
    rw [Char.ofNat, dif_pos (isValidChar_of_mem_targets n target)]
    rfl
  apply ofChar_of_not_mem_sources
  rw [code]
  exact fun source => sources_disjoint_targets source target

/-- The upper case of a character is in upper case. -/
theorem flatMap_ofChar (c : Char) : (ofChar c).flatMap ofChar = ofChar c := by
  rcases ofChar_eq c with same | ⟨upper, targeted, same⟩
  · rw [same, List.flatMap_singleton, same]
  · rw [same, List.flatMap_map]
    calc
      upper.flatMap (fun n => ofChar (Char.ofNat n)) = upper.flatMap fun n => [Char.ofNat n] :=
        List.flatMap_congr fun n member => ofChar_ofNat (targeted member)
      _ = upper.map Char.ofNat := List.flatMap_pure_eq_map Char.ofNat upper

end Uppercase

/-- A text in upper case is its own upper case. -/
@[simp] theorem uppercase_uppercase (s : String) : uppercase (uppercase s) = uppercase s := by
  simp only [uppercase, String.toList_ofList, List.flatMap_assoc, Uppercase.flatMap_ofChar]

end SchemaDelta
