import Mathlib.Tactic.Common
import Screencast.Scheduling

/-!
What a choice among ready branches comes to, and that a task is settled once it has to wait
(`step_settle`): each of its steps brings it nearer to that.
-/

namespace Screencast

variable {α : Type}

theorem mem_rotateLeft {l : List α} {n : Nat} {a : α} : a ∈ l.rotateLeft n ↔ a ∈ l := by
  simp only [List.rotateLeft]
  split
  · rfl
  · rw [List.mem_append, or_comm, ← List.mem_append, List.take_append_drop]

theorem mem_of_firstReady {pick : Nat} {branches : List (Option α)} {a : α}
    (h : firstReady pick branches = some a) : some a ∈ branches := by
  obtain ⟨branch, found, taken⟩ := List.exists_of_findSome?_eq_some h
  rw [id_eq] at taken
  subst taken
  exact mem_rotateLeft.mp found

/-- There is no choice only where nothing is ready. -/
theorem firstReady_eq_none_iff {pick : Nat} {branches : List (Option α)} :
    firstReady pick branches = none ↔ ∀ branch ∈ branches, branch = none := by
  simp only [firstReady, List.findSome?_eq_none_iff, id_eq, mem_rotateLeft]

/-- Where only one thing is ready there is no choice. -/
theorem firstReady_of_only {pick : Nat} {branches : List (Option α)} {a : α}
    (unready : ∀ branch ∈ branches, branch = none) :
    firstReady pick (some a :: branches) = some a := by
  cases chosen : firstReady pick (some a :: branches) with
  | none => exact absurd (firstReady_eq_none_iff.mp chosen (some a) (by simp)) (by simp)
  | some b =>
    rcases List.mem_cons.mp (mem_of_firstReady chosen) with same | ready
    · exact same
    · exact absurd (unready _ ready) (by simp)

theorem firstReady_pair (pick : Nat) (a b : Option α) :
    firstReady pick [a, b] = if pick % 2 = 0 then a.or b else b.or a := by
  unfold firstReady List.rotateLeft
  rcases Nat.mod_two_eq_zero_or_one pick with h | h <;> cases a <;> cases b <;> simp [h]

theorem firstReady_eq_none {pick : Nat} {a b : Option α} (h : firstReady pick [a, b] = none) :
    a = none ∧ b = none := by
  have unready := firstReady_eq_none_iff.mp h
  exact ⟨unready a (by simp), unready b (by simp)⟩

/-- Where a script holds no failure, the next call succeeds and none is held for later ones. -/
theorem nextOutcome_of_none {ε : Type} {outcomes : List (Option ε)}
    (none : ∀ outcome ∈ outcomes, outcome = none) :
    (nextOutcome outcomes).1 = Option.none ∧
      ∀ outcome ∈ (nextOutcome outcomes).2, outcome = Option.none := by
  cases outcomes with
  | nil => exact ⟨rfl, none⟩
  | cons outcome rest =>
    exact ⟨none outcome List.mem_cons_self, fun o mem => none o (List.mem_cons_of_mem _ mem)⟩

section

variable {step : α → Option α}

theorem settle_of_waits {a : α} (waits : step a = none) (fuel : Nat) : settle step fuel a = a := by
  cases fuel with
  | zero => rfl
  | succ fuel => rw [settle, waits]

theorem settle_of_step {a b : α} (stepped : step a = some b) (fuel : Nat) :
    settle step (fuel + 1) a = settle step fuel b := by
  rw [settle, stepped]

/-- What every step keeps holds once the task is settled. -/
theorem settle_invariant {P : α → Prop} (keep : ∀ {a b}, P a → step a = some b → P b) {a : α}
    (start : P a) (fuel : Nat) : P (settle step fuel a) := by
  induction fuel generalizing a with
  | zero => exact start
  | succ fuel ih =>
    rw [settle]
    split
    · exact start
    · rename_i b stepped
      exact ih (keep start stepped)

/-- A task has to wait in the end, if each step takes it further and it may take enough of them. -/
theorem step_settle {P : α → Prop} (keep : ∀ {a b}, P a → step a = some b → P b) (size : α → Nat)
    (smaller : ∀ {a b}, P a → step a = some b → size b < size a) {fuel : Nat} {a : α} (start : P a)
    (enough : size a ≤ fuel) : step (settle step fuel a) = none := by
  induction fuel generalizing a with
  | zero =>
    cases stepped : step a with
    | none => exact stepped
    | some b => exact absurd (smaller start stepped) (by omega)
  | succ fuel ih =>
    rw [settle]
    split
    · assumption
    · rename_i b stepped
      have less := smaller start stepped
      exact ih (keep start stepped) (by omega)

end

end Screencast
