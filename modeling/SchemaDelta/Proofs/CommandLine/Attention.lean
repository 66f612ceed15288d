import SchemaDelta.CommandLine.Run
import SchemaDelta.Proofs.Inexpressible
import SchemaDelta.Proofs.Minimality
import SchemaDelta.Proofs.Number.Digits

/-!
# What a migration calls for

A command that migrates says at the end of its log that there are no changes, or how many need the
user's attention. It decides by whether the migration has a statement. So changes without a
statement are reported as none, also where there is a warning about each of them, while a command
that compares reports none only for an empty diff.
-/

namespace SchemaDelta

namespace CommandLine

/-! ## Verdicts -/

/-- The line that says that nothing differs. -/
def noChanges : LogLine := info "No changes detected."

/-- The line that says how many changes are left to the user. -/
def attention (count : Nat) : LogLine :=
  info (toString count ++ " change(s) need manual attention.")

/-- The line says what a migration calls for. -/
def LogLine.IsVerdict (line : LogLine) : Prop := line = noChanges ∨ ∃ count, line = attention count

theorem noChanges_ne_attention (count : Nat) : noChanges ≠ attention count := by
  intro equal
  have message : "No changes detected.".length =
      (toString count ++ " change(s) need manual attention.").length :=
    congrArg (fun line => line.message.length) equal
  rw [String.length_append] at message
  have long : "No changes detected.".length < " change(s) need manual attention.".length := by decide
  omega

theorem attention_injective : Function.Injective attention := by
  intro count count' equal
  have message : toString count ++ " change(s) need manual attention." =
      toString count' ++ " change(s) need manual attention." := congrArg LogLine.message equal
  exact toString_injective (String.append_left_inj _ |>.mp message)

namespace LogLine.IsVerdict

variable {line : LogLine} (verdict : line.IsVerdict)

include verdict

theorem level : line.level = .info := by
  obtain rfl | ⟨_, rfl⟩ := verdict <;> rfl

theorem fields : line.fields = [] := by
  obtain rfl | ⟨_, rfl⟩ := verdict <;> rfl

theorem not_mem_comparisonLines (before after : Snapshot) :
    line ∉ comparisonLines before after := by
  have details : ∀ detail ∈ comparisonLines before after, detail.level = .debug := by
    intro detail member
    rcases List.mem_append.mp member with removed | compared
    · obtain ⟨_, -, rfl⟩ := List.mem_map.mp removed
      rfl
    · obtain ⟨table, -, made⟩ := List.mem_filterMap.mp compared
      cases old : before.lastTable? table.name with
      | none =>
        rw [old] at made
        obtain rfl := Option.some.inj made
        rfl
      | some _ =>
        rw [old] at made
        obtain ⟨_, -, rfl⟩ := Option.map_eq_some_iff.mp made
        rfl
  intro member
  exact absurd (verdict.level.symm.trans (details line member)) nofun

theorem ne_stepLine (dialect : Dialect) (step : Step) : line ≠ stepLine dialect step := by
  rintro rfl
  have level := verdict.level
  cases step <;> exact absurd level nofun

theorem ne_migrationLine (migration : Migration) : line ≠ migrationLine migration := by
  rintro rfl
  exact absurd verdict.fields nofun

end LogLine.IsVerdict

/-! ## Migrations -/

theorem attentionLines_eq (migration : Migration) :
    attentionLines migration =
      if migration.isEmpty then [noChanges]
      else if migration.warnings.isEmpty then []
      else [attention migration.warnings.length] := rfl

theorem attentionLines_eq_noChanges_iff {migration : Migration} :
    attentionLines migration = [noChanges] ↔ migration.isEmpty = true := by
  rw [attentionLines_eq]
  by_cases empty : migration.isEmpty = true
  · simp [empty]
  · by_cases quiet : migration.warnings.isEmpty = true
    · simp [empty, quiet]
    · simp [empty, quiet, (noChanges_ne_attention _).symm]

theorem attentionLines_eq_attention_iff {migration : Migration} {count : Nat} :
    attentionLines migration = [attention count] ↔
      migration.isEmpty = false ∧ migration.warnings ≠ [] ∧ count = migration.warnings.length := by
  rw [attentionLines_eq]
  by_cases empty : migration.isEmpty = true
  · simp [empty, noChanges_ne_attention]
  · by_cases quiet : migration.warnings = []
    · simp [empty, quiet]
    · simp [empty, quiet, attention_injective.eq_iff,
        eq_comm (a := count)]

theorem log_ofPlan {log : List LogLine} {plan : Plan} {dialect : Dialect}
    {access : List AccessChange} {migration : Migration}
    (made : plan.toMigration dialect access = .ok migration)
    (closing : Migration → List LogLine) (accessOut : Option String) :
    (ofPlan log plan dialect access closing accessOut).log =
      log ++ plan.steps.map (stepLine dialect) ++ migrationLine migration :: closing migration := by
  simp only [ofPlan, made, emit]

variable {read : FileReader} {config : Config} {dialect : Dialect} {before after : Snapshot}
  {migration : Migration} {old new : String}

/-- The verdicts of a migration are in its attention lines. -/
theorem verdict_mem_log_iff (loadedBefore : loadSnapshot read old = .ok before)
    (loadedAfter : loadSnapshot read new = .ok after)
    (made : ({ config } : Synthesizer).migrate before after dialect = .ok migration)
    (accessOut : Option String) {line : LogLine} (verdict : line.IsVerdict) :
    line ∈ (perform read config dialect (.migrate old new accessOut)).log ↔
      line ∈ attentionLines migration := by
  have steps : line ∉
      (({ config } : Synthesizer).synthesisPlan (.between before after) after dialect).steps.map
        (stepLine dialect) := by
    intro member
    obtain ⟨step, -, rfl⟩ := List.mem_map.mp member
    exact verdict.ne_stepLine dialect step rfl
  simp only [perform, loadedBefore, loadedAfter, Outcome.ofResult]
  rw [log_ofPlan made, List.mem_append, List.mem_append, List.mem_cons]
  simp [verdict.not_mem_comparisonLines before after, steps, verdict.ne_migrationLine migration]

/-- A command that compares reports no changes exactly for an empty diff. -/
theorem noChanges_mem_log_diff_iff (loadedBefore : loadSnapshot read old = .ok before)
    (loadedAfter : loadSnapshot read new = .ok after) :
    noChanges ∈ (perform read config dialect (.diff old new)).log ↔
      (Diff.between before after).isEmpty = true := by
  have verdict : noChanges.IsVerdict := .inl rfl
  simp only [perform, loadedBefore, loadedAfter, Outcome.ofResult]
  rw [List.mem_append, or_iff_right (verdict.not_mem_comparisonLines before after)]
  cases (Diff.between before after).isEmpty <;> simp [noChanges]

/-- A command that migrates reports no changes exactly if no change has a statement, and asks for
attention exactly if one has and there are warnings. An empty diff is reported as no changes and
comes without warnings, but it is not the only diff that is. -/
theorem migrate_reports_inexpressible_changes_as_none (acceptedAfter : after.validate = .ok ())
    (made : ({ config } : Synthesizer).migrate before after dialect = .ok migration) :
    (attentionLines migration = [noChanges] ↔ (Diff.between before after).Inexpressible dialect) ∧
    (∀ count, attentionLines migration = [attention count] ↔
      ¬ (Diff.between before after).Inexpressible dialect ∧ migration.warnings ≠ [] ∧
        count = migration.warnings.length) ∧
    ((Diff.between before after).isEmpty = true →
      (Diff.between before after).Inexpressible dialect ∧ migration.warnings = []) ∧
    ∀ read old new accessOut, loadSnapshot read old = .ok before →
      loadSnapshot read new = .ok after → ∀ line : LogLine, line.IsVerdict →
        (line ∈ (perform read config dialect (.migrate old new accessOut)).log ↔
          line ∈ attentionLines migration) := by
  have validAfter := Snapshot.Valid.ofValidate acceptedAfter
  have nothing := Synthesizer.isEmpty_migrate_iff validAfter made
  refine ⟨?noChanges, ?attention, ?empty, ?logged⟩
  case noChanges => rw [attentionLines_eq_noChanges_iff, nothing]
  case attention =>
    intro count
    rw [attentionLines_eq_attention_iff, ← nothing, Bool.not_eq_true]
  case empty =>
    intro empty
    refine ⟨Diff.inexpressible_of_isEmpty dialect empty, ?_⟩
    obtain rfl := Except.ok.inj
      (made.symm.trans (Synthesizer.synthesize_of_isEmpty { config } empty after dialect))
    rfl
  case logged =>
    intro read old new accessOut loadedBefore loadedAfter line verdict
    exact verdict_mem_log_iff loadedBefore loadedAfter made accessOut verdict

/-- Notes with a text that may be missing. -/
def looseTexts : Snapshot where
  tables := [{ name := "notes", fields := [{ name := "body", type := .text }] }]

/-- The same notes with a text that may not be missing. -/
def strictTexts : Snapshot where
  tables := [{ name := "notes", fields := [{ name := "body", type := .text, nullable := false }] }]

/-- The notes with the strict text, and titles. -/
def titledTexts : Snapshot where
  tables := [
    { name := "notes"
      fields := [
        { name := "body", type := .text, nullable := false },
        { name := "title", type := .text }] }]

/-- Titles are added by a statement, so there is attention to the text that is still not strict. -/
theorem migrate_reports_inexpressible_changes_as_none_titles :
    ∃ migration : Migration,
      ({} : Synthesizer).migrate looseTexts titledTexts .sqlite = .ok migration ∧
      attentionLines migration = [attention 1] ∧
      ¬ (Diff.between looseTexts titledTexts).Inexpressible .sqlite := by
  obtain ⟨migration, made, attentive⟩ : ∃ migration : Migration,
      ({} : Synthesizer).migrate looseTexts titledTexts .sqlite = .ok migration ∧
      attentionLines migration = [attention 1] := ⟨_, rfl, rfl⟩
  obtain ⟨-, called, -, -⟩ := migrate_reports_inexpressible_changes_as_none
    (show titledTexts.validate = .ok () by decide) made
  exact ⟨migration, made, attentive, ((called 1).mp attentive).1⟩

/-- A change that is left to the user, with a warning, is reported as no change. -/
theorem migrate_reports_no_changes_despite_warning :
    looseTexts.validate = .ok () ∧ strictTexts.validate = .ok () ∧
    ∃ migration : Migration,
      ({} : Synthesizer).migrate looseTexts strictTexts .sqlite = .ok migration ∧
      (Diff.between looseTexts strictTexts).isEmpty = false ∧
      migration.warnings = [.nullabilitySkipped "notes" "body" false] ∧
      attentionLines migration = [noChanges] :=
  ⟨by decide, by decide, _, rfl, rfl, rfl, rfl⟩

end CommandLine

end SchemaDelta
