import SchemaDelta.Proofs.Plan

/-!
# First faults

Checks that are made one after the other, up to the first that fails, end with the fault of that
one. Compiling the nodes of an expression and planning the parts of a migration both go that way:
what they fail by is the first fault in a list.
-/

namespace SchemaDelta

section FirstFault

variable {α ε : Type} {Fault : α → ε → Prop} {fault? : α → Option ε} {items : List α} {e : ε}

/-- The first item of a list with a fault has this one. -/
def FirstFault (Fault : α → ε → Prop) (items : List α) (e : ε) : Prop :=
  ∃ before item after, items = before ++ item :: after ∧
    (∀ other ∈ before, ∀ e', ¬ Fault other e') ∧ Fault item e

theorem findSome?_eq_some_iff_firstFault (exact : ∀ item e, fault? item = some e ↔ Fault item e) :
    items.findSome? fault? = some e ↔ FirstFault Fault items e := by
  rw [List.findSome?_eq_some_iff]
  constructor
  · rintro ⟨before, item, after, rfl, faulty, passed⟩
    refine ⟨before, item, after, rfl, ?_, (exact item e).mp faulty⟩
    intro other member e' otherFaulty
    have found := (exact other e').mpr otherFaulty
    rw [passed other member] at found
    cases found
  · rintro ⟨before, item, after, rfl, passed, faulty⟩
    refine ⟨before, item, after, rfl, (exact item e).mpr faulty, ?_⟩
    intro other member
    cases found : fault? other with
    | none => rfl
    | some e' => exact absurd ((exact other e').mp found) (passed other member e')

theorem findSome?_eq_none_iff_forall (exact : ∀ item e, fault? item = some e ↔ Fault item e) :
    items.findSome? fault? = none ↔ ∀ item ∈ items, ∀ e, ¬ Fault item e := by
  rw [List.findSome?_eq_none_iff]
  apply forall₂_congr
  intro item _
  rw [Option.eq_none_iff_forall_ne_some]
  apply forall_congr'
  intro e
  rw [ne_eq, exact item e]

theorem findSome?_flatMap {β : Type} {parts : β → List α} {wholes : List β} :
    (wholes.flatMap parts).findSome? fault? =
      wholes.findSome? fun whole => (parts whole).findSome? fault? := by
  induction wholes with
  | nil => rfl
  | cons whole wholes ih =>
    rw [List.flatMap_cons, List.findSome?_append, ih, List.findSome?_cons]
    cases (parts whole).findSome? fault? <;> rfl

/-- If an item is sound or has a fault, and it is known what is found in either case, then that is
found in no other case. -/
theorem found_iff_of_sound_or_fault {Sound : Prop} {found : Option ε} {Fault : ε → Prop}
    (total : Sound ∨ ∃ e, Fault e) (ofSound : Sound → found = none)
    (ofFault : ∀ e, Fault e → found = some e) :
    (found = none ↔ Sound) ∧ ∀ e, found = some e ↔ Fault e := by
  rcases total with sound | ⟨e, faulty⟩
  · have nothing := ofSound sound
    refine ⟨iff_of_true nothing sound, fun e => iff_of_false ?_ fun faulty => ?_⟩
    · simp [nothing]
    · have something := ofFault e faulty
      rw [nothing] at something
      cases something
  · have something := ofFault e faulty
    refine ⟨iff_of_false ?_ fun sound => ?_, fun e' => ⟨fun same => ?_, ofFault e'⟩⟩
    · simp [something]
    · have nothing := ofSound sound
      rw [something] at nothing
      cases nothing
    · rw [something] at same
      cases same
      exact faulty

end FirstFault

section Results

variable {α β ε : Type} {result : Except ε α} {e : ε}

/-- The error of a result, if that is one. -/
def failure? : Except ε α → Option ε
  | .ok _ => none
  | .error e => some e

theorem failure?_eq_some_iff : failure? result = some e ↔ result = .error e := by
  cases result <;> simp [failure?]

theorem failure?_eq_none_iff : failure? result = none ↔ ∃ value, result = .ok value := by
  cases result <;> simp [failure?]

/-- What follows a result fails after it. -/
theorem failure?_bind {next : α → Except ε β} {later : Option ε}
    (follows : ∀ value, result = .ok value → failure? (next value) = later) :
    failure? (result >>= next) = (failure? result).or later := by
  cases result with
  | error e => rfl
  | ok value => exact follows value rfl

/-- What is only made of a result cannot fail by itself. -/
theorem failure?_bind_ok (make : α → β) :
    failure? (result >>= fun value => .ok (make value)) = failure? result := by
  cases result <;> rfl

/-- Going through a list fails by its first item that fails. -/
theorem failure?_mapM {f : α → Except ε β} {items : List α} :
    failure? (items.mapM f) = items.findSome? fun item => failure? (f item) := by
  induction items with
  | nil => rfl
  | cons item items ih =>
    rw [List.mapM_cons, List.findSome?_cons]
    cases head : f item with
    | error e => rfl
    | ok value => exact (failure?_bind_ok (value :: ·)).trans ih

end Results

namespace Plan

variable {p q : Plan}

/-- A plan that goes on after another one ends early by the first of their errors. -/
theorem failure_append_eq : (p ++ q).failure = p.failure.or q.failure := by
  cases early : p.failure with
  | none => rw [failure_append early, Option.none_or]
  | some e =>
    have incomplete : ¬ p.Complete := by
      intro complete
      rw [complete] at early
      cases early
    rw [append_of_not_complete incomplete, early, Option.some_or]

/-- A plan that depends on a result fails by it, if all that follows is complete. -/
theorem failure_ofResult {α : Type} {result : Except SchemaError α} {plan : α → Plan}
    (complete : ∀ value, (plan value).Complete) :
    (ofResult result plan).failure = failure? result := by
  cases result with
  | error e => rfl
  | ok value => exact complete value

end Plan

end SchemaDelta
