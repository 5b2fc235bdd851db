import Mathlib.Logic.Relation
import Screencast.Proofs.Session.Supervision

/-!
Tasks that report to one barrier, however many there are and in whatever order they end. Each of
them reports once, when it ends (`Crew.Counted`). The barrier opens when as many have ended as it
waits for or when one has failed, and it stays open (`opens_of_reach`).
-/

namespace Screencast

/-- A task, and how its body has ended. -/
structure Task where
  worker : Worker := Worker.spawn {}
  outcome : Option Outcome := none

/-- The tasks that were spawned over a barrier, and the outcomes in the order in which they came. -/
structure Crew where
  tasks : List Task := []
  barrier : Barrier
  ends : List Outcome := []

namespace Crew

/-- Over a barrier that waits for `n` tasks. -/
def start (n : Nat) : Crew := { barrier := { running := n } }

/-- What may happen next. A body ends once, and in any way; a task is joined when its body has
ended. -/
inductive Step (c : Crew) : Crew → Prop
  | spawn : Step c { c with tasks := c.tasks ++ [{}] }
  | stop {before after : List Task} {t : Task} (found : c.tasks = before ++ t :: after) :
      Step c { c with tasks := before ++ { t with worker := t.worker.stop } :: after }
  | finish {before after : List Task} {t : Task} (found : c.tasks = before ++ t :: after)
      (running : t.outcome = none) (outcome : Outcome) :
      Step c
        { tasks := before ++ ⟨t.worker.finish outcome, some outcome⟩ :: after
          barrier := c.barrier.add outcome.isFatal
          ends := c.ends ++ [outcome] }
  | join {before after : List Task} {t : Task} (found : c.tasks = before ++ t :: after)
      (ended : t.outcome ≠ none) :
      Step c { c with tasks := before ++ { t with worker := t.worker.join } :: after }

abbrev Reach : Crew → Crew → Prop := Relation.ReflTransGen Step

end Crew

/-! ### Each task reports once -/

/-- The listener was told of the end of the body, if it has ended, and of nothing else. A task that
is not there any more has ended. -/
structure Task.Reported (t : Task) : Prop where
  once : t.worker.reports = (t.outcome.map Outcome.isFatal).toList
  joined : t.worker.started = false → t.outcome ≠ none

namespace Crew

/-- What the barrier knows of the tasks. -/
structure Counted (n : Nat) (c : Crew) : Prop where
  reported : ∀ t ∈ c.tasks, t.Reported
  ends : c.ends.Perm (c.tasks.filterMap Task.outcome)
  running : c.barrier.running = n - c.ends.length
  fatal : c.barrier.fatal = c.ends.any Outcome.isFatal

variable {n : Nat} {c c' : Crew} {before after : List Task} {t t' : Task}

theorem counted_start (n : Nat) : (start n).Counted n where
  reported := nofun
  ends := .nil
  running := rfl
  fatal := rfl

/-- One task is exchanged for another. -/
theorem Counted.exchange (counted : c.Counted n) (found : c.tasks = before ++ t :: after)
    (reported : t.Reported → t'.Reported) :
    t.Reported ∧ ∀ u ∈ before ++ t' :: after, u.Reported := by
  have all := counted.reported
  rw [found, List.forall_mem_append, List.forall_mem_cons] at all
  obtain ⟨first, this, rest⟩ := all
  refine ⟨this, ?_⟩
  rw [List.forall_mem_append, List.forall_mem_cons]
  exact ⟨first, reported this, rest⟩

/-- Nothing ends by a step that leaves the outcome of a task as it is. -/
theorem Counted.aside (counted : c.Counted n) (found : c.tasks = before ++ t :: after)
    (same : t'.outcome = t.outcome) (reported : t.Reported → t'.Reported) :
    { c with tasks := before ++ t' :: after }.Counted n where
  reported := (counted.exchange found reported).2
  ends := by
    have ends := counted.ends
    rw [found] at ends
    simpa [List.filterMap_cons, same] using ends
  running := counted.running
  fatal := counted.fatal

theorem Counted.finish (counted : c.Counted n) (found : c.tasks = before ++ t :: after)
    (running : t.outcome = none) (outcome : Outcome) :
    Counted n
      { tasks := before ++ ⟨t.worker.finish outcome, some outcome⟩ :: after
        barrier := c.barrier.add outcome.isFatal
        ends := c.ends ++ [outcome] } where
  reported := by
    refine (counted.exchange found fun reported => ⟨?_, ?_⟩).2
    · have silent : t.worker.reports = [] := by rw [reported.once, running]; rfl
      simp [Worker.finish, silent]
    · exact fun _ => Option.some_ne_none outcome
  ends := by
    have ends := counted.ends
    have reports : Task.outcome ⟨t.worker.finish outcome, some outcome⟩ = some outcome := rfl
    rw [found, List.filterMap_append, List.filterMap_cons_none running] at ends
    rw [List.filterMap_append, List.filterMap_cons_some reports]
    exact (ends.append_right [outcome]).trans
      ((List.perm_append_singleton outcome _).trans List.perm_middle.symm)
  running := by
    simp only [Barrier.add, counted.running, List.length_append, List.length_singleton]
    omega
  fatal := by
    simp [Barrier.add, counted.fatal]

theorem Counted.keep (counted : c.Counted n) (step : Step c c') : c'.Counted n := by
  cases step with
  | spawn =>
    constructor
    case reported =>
      rw [List.forall_mem_append]
      refine ⟨counted.reported, fun t new => ?_⟩
      rw [List.mem_singleton.mp new]
      exact ⟨rfl, nofun⟩
    case ends => simpa [List.filterMap_append] using counted.ends
    case running => exact counted.running
    case fatal => exact counted.fatal
  | stop found => exact counted.aside found rfl fun reported => ⟨reported.once, reported.joined⟩
  | finish found running outcome => exact counted.finish found running outcome
  | join found ended =>
    exact counted.aside found rfl fun reported => ⟨reported.once, fun _ => ended⟩

theorem counted_of_reach (reached : (start n).Reach c) : c.Counted n := by
  induction reached with
  | refl => exact counted_start n
  | tail _ step counted => exact counted.keep step

end Crew

/-! ### The barrier opens and stays open -/

namespace Barrier

variable {b : Barrier}

theorem isSome_wait?_iff : b.wait?.isSome ↔ b.running = 0 ∨ b.fatal = true := by
  rw [Option.isSome_iff_exists]
  constructor
  · rintro ⟨fatal, waited⟩
    exact (wait?_eq_some_iff.mp waited).1
  · intro opened
    exact ⟨b.fatal, wait?_eq_some_iff.mpr ⟨opened, rfl⟩⟩

theorem isSome_wait?_add (opened : b.wait?.isSome) (fatal : Bool) : (b.add fatal).wait?.isSome := by
  rw [isSome_wait?_iff] at opened ⊢
  dsimp only [add]
  obtain none | failed := opened
  · left
    omega
  · right
    rw [failed, Bool.true_or]

end Barrier

namespace Crew

variable {n : Nat} {c c' : Crew}

theorem Step.stays_open (step : Step c c') (opened : c.barrier.wait?.isSome) :
    c'.barrier.wait?.isSome := by
  cases step with
  | spawn | stop | join => exact opened
  | finish found running outcome => exact Barrier.isSome_wait?_add opened outcome.isFatal

theorem Reach.stays_open (later : c.Reach c') (opened : c.barrier.wait?.isSome) :
    c'.barrier.wait?.isSome := by
  induction later with
  | refl => exact opened
  | tail _ step opened => exact step.stays_open opened

/-- Tasks over a barrier that waits for `n` of them, after whatever has happened. The listener was
told once of each task that has ended, and of no other; the barrier counts down as many as have
ended, which may be more than `n`, and knows of a failure exactly if a task has failed. The wait is
over exactly when the count is down or a task has failed, it tells which, and it stays over. -/
theorem opens_of_reach (reached : (start n).Reach c) :
    (∀ t ∈ c.tasks, t.worker.reports = (t.outcome.map Outcome.isFatal).toList) ∧
    c.ends.Perm (c.tasks.filterMap Task.outcome) ∧
    c.barrier.running = n - c.ends.length ∧
    (c.barrier.fatal = true ↔ ∃ outcome ∈ c.ends, outcome.Fails) ∧
    (∀ fatal, c.barrier.wait? = some fatal ↔
      (c.barrier.running = 0 ∨ c.barrier.fatal = true) ∧ fatal = c.barrier.fatal) ∧
    ∀ later, c.Reach later → c.barrier.wait?.isSome → later.barrier.wait?.isSome := by
  have counted := counted_of_reach reached
  refine ⟨fun t member => (counted.reported t member).once, counted.ends, counted.running, ?_,
    fun fatal => Barrier.wait?_eq_some_iff, fun later reached => reached.stays_open⟩
  rw [counted.fatal, List.any_eq_true]
  simp only [Outcome.isFatal_iff]

/-- A barrier that waits for one task has two. The second one loses the desktop, which opens the
barrier; the first one panics after that. -/
theorem opens_of_reach_late :
    ∃ opened failed : Crew, (start 1).Reach opened ∧ opened.Reach failed ∧
      opened.barrier.wait? = some false ∧ failed.barrier.running = 0 ∧
      failed.tasks.map (·.worker.reports) = [[true], [false]] ∧
      failed.barrier.wait? = some true := by
  let lost : Outcome := .error (.codec (.io ⟨.connectionReset, none⟩))
  let first : Crew := { start 1 with tasks := [{}, {}] }
  have spawned : (start 1).Reach first := .tail (.tail .refl .spawn) .spawn
  have opened := spawned.tail (@Step.finish first [{}] [] {} rfl rfl lost)
  have later := Relation.ReflTransGen.single (@Step.finish
    { tasks := [{}, ⟨(Worker.spawn {}).finish lost, some lost⟩], barrier := ⟨0, false⟩,
      ends := [lost] } [] _ {} rfl rfl .panicked)
  obtain ⟨-, -, -, -, waits, -⟩ := opens_of_reach opened
  obtain ⟨-, -, running, fatal, waitsLater, -⟩ := opens_of_reach (opened.trans later)
  have failed := fatal.mpr ⟨.panicked, by simp, .panicked⟩
  exact ⟨_, _, opened, later, (waits false).mpr ⟨.inl rfl, rfl⟩, running, rfl,
    (waitsLater true).mpr ⟨.inr failed, failed.symm⟩⟩

end Crew

end Screencast
