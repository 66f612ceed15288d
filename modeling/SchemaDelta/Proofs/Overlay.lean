import Mathlib.Data.List.Nodup
import Mathlib.Logic.Function.Basic

/-!
# Maps changed key by key

A script may work through items one after the other, each with a key of its own, and change a map
at that key alone. Then it ends in the map that has the intended value at the key of every item and
is as before at all other keys.
-/

namespace SchemaDelta

section Overlay

variable {β : Type}

/-- The map that has the values of `goal` at the given keys. -/
def overlay (keys : List String) (goal map : String → β) : String → β :=
  fun key => if key ∈ keys then goal key else map key

variable {keys : List String} {goal map : String → β} {key : String}

theorem overlay_of_mem (member : key ∈ keys) : overlay keys goal map key = goal key :=
  if_pos member

theorem overlay_of_not_mem (absent : key ∉ keys) : overlay keys goal map key = map key :=
  if_neg absent

@[simp] theorem overlay_nil (goal map : String → β) : overlay [] goal map = map := rfl

theorem overlay_overlay (keys : List String) (goal middle map : String → β) :
    overlay keys goal (overlay keys middle map) = overlay keys goal map := by
  funext key
  by_cases member : key ∈ keys <;> simp [overlay, member]

theorem overlay_cons (goal map : String → β) (key : String) (keys : List String) :
    overlay (key :: keys) goal map = overlay keys goal (Function.update map key (goal key)) := by
  funext other
  by_cases same : other = key
  · subst same
    simp [overlay]
  · simp [overlay, same]

/-- Each item takes the map from `start` to `goal` at its own key, as long as an invariant holds
that it keeps. Then the items one after the other do so at all their keys. -/
theorem foldlM_overlay {ι κ : Type} (exec : (String → β) → κ → Option (String → β))
    (Inv : (String → β) → Prop) (start goal : String → β) (key : ι → String)
    (script : ι → List κ) (items : List ι) (distinct : (items.map key).Nodup)
    (step : ∀ item ∈ items, ∀ map, Inv map → map (key item) = start (key item) →
      (script item).foldlM exec map = some (Function.update map (key item) (goal (key item))) ∧
        Inv (Function.update map (key item) (goal (key item))))
    (map : String → β) (inv : Inv map) (fresh : ∀ item ∈ items, map (key item) = start (key item)) :
    (items.flatMap script).foldlM exec map = some (overlay (items.map key) goal map) := by
  induction items generalizing map with
  | nil => rfl
  | cons item items ih =>
    obtain ⟨different, distinct⟩ := List.nodup_cons.mp distinct
    obtain ⟨ran, kept⟩ := step item (by simp) map inv (fresh item (by simp))
    rw [List.flatMap_cons, List.foldlM_append, ran]
    change (items.flatMap script).foldlM exec _ = _
    rw [List.map_cons, overlay_cons]
    apply ih distinct (fun other member => step other (List.mem_cons_of_mem _ member)) _ kept
    intro other member
    have apart : key other ≠ key item := fun same =>
      different (same ▸ List.mem_map_of_mem member)
    rw [Function.update_of_ne apart]
    exact fresh other (List.mem_cons_of_mem _ member)

section AlterAt

variable {γ : Type} {map next : String → Option γ} {value : γ} {change : γ → Option γ}

/-- The map with the value at a key changed, if there is one and it can be changed. -/
def alterAt (map : String → Option γ) (key : String) (change : γ → Option γ) :
    Option (String → Option γ) := do
  let value ← map key
  let altered ← change value
  return Function.update map key (some altered)

theorem alterAt_of_eq_some (found : map key = some value) :
    alterAt map key change =
      (change value).map fun altered => Function.update map key (some altered) := by
  rw [alterAt, found, Option.map_eq_bind]
  rfl

/-- A change that keeps the value keeps the map. -/
theorem alterAt_eq_self (found : map key = some value) (kept : change value = some value) :
    alterAt map key change = some map := by
  rw [alterAt_of_eq_some found, kept, Option.map_some, ← found, Function.update_eq_self]

theorem alterAt_eq_some_iff :
    alterAt map key change = some next ↔ ∃ value altered, map key = some value ∧
      change value = some altered ∧ next = Function.update map key (some altered) := by
  cases found : map key with
  | none => simp [alterAt, found]
  | some value => simp [alterAt_of_eq_some found, eq_comm]

end AlterAt

/-- A script whose steps change the value at one key changes the map as it changes the value. -/
theorem foldlM_at_key {γ κ : Type} (exec : (String → Option γ) → κ → Option (String → Option γ))
    (alter : γ → κ → Option γ) (key : String) (script : List κ)
    (step : ∀ s ∈ script, ∀ map, exec map s = alterAt map key (alter · s))
    {map : String → Option γ} {value final : γ} (found : map key = some value)
    (ran : script.foldlM alter value = some final) :
    script.foldlM exec map = some (Function.update map key (some final)) := by
  induction script generalizing map value with
  | nil =>
    obtain rfl : value = final := by simpa using ran
    simp [← found]
  | cons s script ih =>
    rw [List.foldlM_cons] at ran ⊢
    obtain ⟨next, altered, ran⟩ := Option.bind_eq_some_iff.mp ran
    rw [step s (by simp), alterAt_of_eq_some found, altered]
    change script.foldlM exec _ = _
    rw [ih (fun s member => step s (List.mem_cons_of_mem _ member)) (by simp) ran,
      Function.update_idem]

/-- A script that runs reaches each of its statements, which is then executed. -/
theorem foldlM_reach {σ κ : Type} {exec : σ → κ → Option σ} {earlier later : List κ} {s : κ}
    {start final : σ} (ran : (earlier ++ s :: later).foldlM exec start = some final) :
    ∃ state next, earlier.foldlM exec start = some state ∧ exec state s = some next := by
  rw [List.foldlM_append] at ran
  obtain ⟨state, before, rest⟩ := Option.bind_eq_some_iff.mp ran
  obtain ⟨next, executed, -⟩ := Option.bind_eq_some_iff.mp rest
  exact ⟨state, next, before, executed⟩

/-- If each step leaves something true exactly unless it breaks it, then so does a script. -/
theorem foldlM_iff {σ κ : Type} {exec : σ → κ → Option σ} (Q : σ → Prop) (breaks : κ → Prop)
    {script : List κ} {start final : σ}
    (step : ∀ s ∈ script, ∀ state next, exec state s = some next →
      (Q next ↔ Q state ∧ ¬ breaks s))
    (ran : script.foldlM exec start = some final) :
    Q final ↔ Q start ∧ ∀ s ∈ script, ¬ breaks s := by
  induction script generalizing start with
  | nil =>
    obtain rfl : start = final := by simpa using ran
    simp
  | cons s script ih =>
    obtain ⟨head, tail⟩ := List.forall_mem_cons.mp step
    obtain ⟨next, executed, ran⟩ := Option.bind_eq_some_iff.mp ran
    rw [ih tail ran, head start next executed, and_assoc, List.forall_mem_cons]

end Overlay

end SchemaDelta
