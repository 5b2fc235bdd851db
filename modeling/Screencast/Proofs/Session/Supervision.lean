import Mathlib.Data.List.Perm.Subperm
import Screencast.Proofs.Scheduling
import Screencast.Session.Supervisor

/-!
The main task of a session in closed form. What it knows is what its processors have reported, in
whatever order (`Supervisor.Over`). It tells them to stop for a reason that is in these reports or
in the stop signal (`step_waiting`), and when all have ended it leaves and judges by all of the
reports (`step_joining`).
-/

namespace Screencast

/-- Such an outcome is a failure of the session: a panic, or an error that is neither a missing
capability nor a disconnection. -/
inductive Outcome.Fails : Outcome → Prop
  | panicked : Fails .panicked
  | error (e : Error) (capable : ∀ capability, e ≠ .unsupported capability)
      (connected : e.isDisconnect = false) : Fails (.error e)

theorem Outcome.isFatal_iff {outcome : Outcome} : outcome.isFatal = true ↔ outcome.Fails := by
  constructor
  · intro fatal
    cases outcome with
    | ok => cases fatal
    | panicked => exact .panicked
    | error e =>
      have bad : e.isFatal = true := fatal
      unfold Error.isFatal at bad
      split at bad
      · cases bad
      · rename_i capable
        exact .error e capable (by simpa using bad)
  · intro fails
    cases fails with
    | panicked => rfl
    | error e capable connected =>
      change e.isFatal = true
      unfold Error.isFatal
      split
      · exact absurd rfl (capable _)
      · simpa using connected

/-- The wait is over when all have ended or one has failed. -/
theorem Barrier.wait?_eq_some_iff {b : Barrier} {fatal : Bool} :
    b.wait? = some fatal ↔ (b.running = 0 ∨ b.fatal = true) ∧ fatal = b.fatal := by
  unfold wait?
  split
  · rename_i opened
    rw [Bool.or_eq_true, decide_eq_true_eq] at opened
    rw [Option.some.injEq, eq_comm]
    exact ⟨fun same => ⟨opened, same⟩, fun ⟨_, same⟩ => same⟩
  · rename_i closed
    rw [Bool.or_eq_true, decide_eq_true_eq] at closed
    exact ⟨nofun, fun ⟨opened, _⟩ => absurd opened closed⟩

/-- Processors that have ended, and how. -/
abbrev Ends := List (ChannelKind × Outcome)

namespace Ends

def Has (ends : Ends) (kind : ChannelKind) : Prop := ∃ outcome, (kind, outcome) ∈ ends

/-- All processors of these channels have ended. -/
def Cover (ends : Ends) (kinds : List ChannelKind) : Prop := ∀ kind ∈ kinds, ends.Has kind

def fatal (ends : Ends) : Bool := ends.any (·.2.isFatal)

/-- What the listener of a channel was told. -/
def reports (ends : Ends) (kind : ChannelKind) : List Bool :=
  (ends.filter (·.1 = kind)).map (·.2.isFatal)

variable {ends : Ends} {kind : ChannelKind} {outcome : Outcome}

theorem has_iff : ends.Has kind ↔ kind ∈ ends.map (·.1) := by
  simp [Has]

theorem fatal_iff : ends.fatal = true ↔ ∃ kind outcome, (kind, outcome) ∈ ends ∧ outcome.Fails := by
  simp [fatal, Outcome.isFatal_iff]

theorem reports_eq_nil_iff : ends.reports kind = [] ↔ ¬ends.Has kind := by
  unfold reports Has
  rw [List.map_eq_nil_iff, List.filter_eq_nil_iff]
  constructor
  · rintro none ⟨outcome, ended⟩
    exact none _ ended (by simp)
  · rintro none ⟨k, outcome⟩ ended same
    have same : k = kind := by simpa using same
    exact none ⟨outcome, same ▸ ended⟩

/-- A processor that ends once reports once. -/
theorem reports_of_mem (once : (ends.map (·.1)).Nodup) (ended : (kind, outcome) ∈ ends) :
    ends.reports kind = [outcome.isFatal] := by
  induction ends with
  | nil => cases ended
  | cons first rest ih =>
    rw [List.map_cons, List.nodup_cons] at once
    rcases List.mem_cons.mp ended with rfl | later
    · have others : reports rest kind = [] :=
        reports_eq_nil_iff.mpr fun has => once.1 (has_iff.mp has)
      rw [reports] at others
      simp [reports, others]
    · have other : first.1 ≠ kind := by
        rintro rfl
        exact once.1 (has_iff.mp ⟨outcome, later⟩)
      rw [← ih once.2 later]
      simp [reports, other]

end Ends

namespace Supervisor

/-- The main task of a session with one processor for each of these channels, after these ends. -/
structure Over (kinds : List ChannelKind) (ends : Ends) (told : Bool) (s : Supervisor) : Prop where
  workers : s.workers = kinds.map fun kind => (kind, ⟨true, told, ends.reports kind⟩)
  barrier : s.barrier = ⟨kinds.length - ends.length, ends.fatal⟩
  distinct : kinds.Nodup
  once : (ends.map (·.1)).Nodup
  within : ∀ kind, ends.Has kind → kind ∈ kinds

variable {kinds : List ChannelKind} {ends : Ends} {told : Bool} {s next : Supervisor}
  {kind : ChannelKind} {outcome : Outcome} {pick : Nat} {stop : Bool}

theorem over_start (distinct : kinds.Nodup) : (start kinds).Over kinds [] false :=
  ⟨rfl, rfl, distinct, .nil, fun _ has => by simp [Ends.Has] at has⟩

theorem hasEnded_iff {started : Bool} :
    hasEnded ⟨started, told, ends.reports kind⟩ = true ↔ ends.Has kind := by
  have none : ends.reports kind = [] ↔ ¬ends.Has kind := Ends.reports_eq_nil_iff
  simp [hasEnded, none]

namespace Over

theorem runs_iff (known : s.Over kinds ends told) :
    s.runs kind = true ↔ kind ∈ kinds ∧ ¬ends.Has kind := by
  unfold runs
  rw [known.workers, List.any_eq_true]
  constructor
  · rintro ⟨⟨k, w⟩, member, going⟩
    obtain ⟨k', enabled, same⟩ := List.mem_map.mp member
    obtain ⟨rfl, rfl⟩ := Prod.mk.inj same
    obtain ⟨rfl, running⟩ : k' = kind ∧ hasEnded _ = false := by simpa using going
    exact ⟨enabled, fun ended => by simp [hasEnded_iff.mpr ended] at running⟩
  · rintro ⟨enabled, going⟩
    refine ⟨_, List.mem_map_of_mem enabled, ?_⟩
    have running : hasEnded ⟨true, told, ends.reports kind⟩ = false :=
      Bool.eq_false_iff.mpr fun ended => going (hasEnded_iff.mp ended)
    simp [running]

theorem all_hasEnded_iff (known : s.Over kinds ends told) :
    (s.workers.all fun (_, w) => hasEnded w) = true ↔ ends.Cover kinds := by
  simp [known.workers, hasEnded_iff, Ends.Cover]

/-- Each of the channels counts once, so that none runs any more exactly if all have ended. -/
theorem running_eq_zero_iff (known : s.Over kinds ends told) :
    s.barrier.running = 0 ↔ ends.Cover kinds := by
  have inside : ends.map (·.1) ⊆ kinds := fun kind ended =>
    known.within kind (Ends.has_iff.mpr ended)
  have subperm := List.subperm_of_subset known.once inside
  have fewer : ends.length ≤ kinds.length := by simpa using subperm.length_le
  rw [known.barrier]
  dsimp only
  constructor
  · intro none kind enabled
    have all := subperm.perm_of_length_le (by simp; omega)
    exact Ends.has_iff.mpr (all.mem_iff.mpr enabled)
  · intro cover
    have back : kinds ⊆ ends.map (·.1) := fun kind enabled => Ends.has_iff.mp (cover kind enabled)
    have more := (List.subperm_of_subset known.distinct back).length_le
    simp at more
    omega

theorem report (known : s.Over kinds ends told) (runs : s.runs kind = true) (outcome : Outcome) :
    (s.report kind outcome).Over kinds (ends ++ [(kind, outcome)]) told ∧
      (s.report kind outcome).stage = s.stage := by
  obtain ⟨enabled, running⟩ := known.runs_iff.mp runs
  rw [Supervisor.report, if_pos runs]
  refine ⟨⟨?_, ?_, known.distinct, ?_, ?_⟩, rfl⟩
  · dsimp only
    rw [known.workers, List.map_map]
    refine List.map_congr_left fun k _ => ?_
    by_cases same : k = kind
    · subst same
      simp [Ends.reports, Worker.finish]
    · have other : ¬kind = k := fun h => same h.symm
      simp [Ends.reports, same, other]
  · simp [Barrier.add, known.barrier, Ends.fatal, Nat.sub_sub]
  · rw [List.map_append, List.nodup_append]
    refine ⟨known.once, by simp, fun k before last now => ?_⟩
    rintro rfl
    have same : k = kind := List.mem_singleton.mp now
    exact running (Ends.has_iff.mpr (same ▸ before))
  · rintro k ⟨other, ended⟩
    rcases List.mem_append.mp ended with before | now
    · exact known.within k ⟨other, before⟩
    · cases List.mem_singleton.mp now
      exact enabled

theorem beginJoining (known : s.Over kinds ends told) (fatal : Bool) :
    (s.beginJoining fatal).Over kinds ends true := by
  refine ⟨?_, known.barrier, known.distinct, known.once, known.within⟩
  simp [Supervisor.beginJoining, known.workers, Worker.stop]

/-- Whether the wait is over, and how it ended. -/
theorem wait?_eq_some_iff (known : s.Over kinds ends told) {fatal : Bool} :
    s.barrier.wait? = some fatal ↔
      (ends.Cover kinds ∨ ends.fatal = true) ∧ fatal = ends.fatal := by
  have counted : s.barrier.fatal = ends.fatal := congrArg Barrier.fatal known.barrier
  rw [Barrier.wait?_eq_some_iff, known.running_eq_zero_iff, counted]

end Over

theorem step_of_waiting (waiting : s.stage = .waiting) : s.step pick stop = firstReady pick
    [s.barrier.wait?.map s.beginJoining, if stop then some (s.beginJoining false) else none] := by
  rw [step, waiting]

/-- Processors are told to stop only when all have ended, when one has failed, or when the session
is to stop. -/
theorem step_waiting (known : s.Over kinds ends told) (waiting : s.stage = .waiting)
    (h : s.step pick stop = some next) : (ends.Cover kinds ∨ ends.fatal = true ∨ stop = true) ∧
      ∃ fatal, next = s.beginJoining fatal ∧ (fatal = true → ends.fatal = true) := by
  rw [step_of_waiting waiting] at h
  have ready := mem_of_firstReady h
  rw [List.mem_cons, List.mem_singleton] at ready
  rcases ready with opened | stopped
  · obtain ⟨fatal, waited, rfl⟩ := Option.map_eq_some_iff.mp opened.symm
    obtain ⟨reason, same⟩ := known.wait?_eq_some_iff.mp waited
    exact ⟨reason.imp_right .inl, fatal, rfl, fun now => same ▸ now⟩
  · split at stopped <;> cases stopped
    rename_i now
    exact ⟨.inr (.inr now), false, rfl, nofun⟩

/-- And then they are told at once. -/
theorem exists_step_waiting (known : s.Over kinds ends told) (waiting : s.stage = .waiting)
    (reason : ends.Cover kinds ∨ ends.fatal = true ∨ stop = true) (pick : Nat) :
    ∃ next, s.step pick stop = some next := by
  rw [step_of_waiting waiting]
  refine Option.ne_none_iff_exists'.mp fun none => ?_
  obtain ⟨waits, going⟩ := firstReady_eq_none none
  have closed : ¬(ends.Cover kinds ∨ ends.fatal = true) := fun opened => by
    have waited := known.wait?_eq_some_iff.mpr ⟨opened, rfl⟩
    rw [waited] at waits
    cases waits
  rcases reason with cover | fatal | now
  · exact closed (.inl cover)
  · exact closed (.inr fatal)
  · rw [if_pos now] at going
    cases going

/-- When all have ended each is joined, and the session has failed if any of them has. -/
theorem step_joining (known : s.Over kinds ends true) {fatal : Bool}
    (joining : s.stage = .joining fatal) (honest : fatal = true → ends.fatal = true) :
    s.step pick stop = some next ↔ ends.Cover kinds ∧ next = { s with
      workers := kinds.map fun kind => (kind, ⟨false, true, ends.reports kind⟩)
      stage := .ended (verdict ends.fatal) } := by
  have counted : s.barrier.fatal = ends.fatal := congrArg Barrier.fatal known.barrier
  have judged : (fatal || ends.fatal) = ends.fatal := by
    cases fatal with
    | false => rfl
    | true => rw [honest rfl, Bool.or_true]
  have joined : s.workers.map (fun (k, w) => (k, w.join)) =
      kinds.map fun kind => (kind, ⟨false, true, ends.reports kind⟩) := by
    simp [known.workers, Worker.join]
  rw [step, joining]
  dsimp only [join?]
  rw [joined, counted, judged]
  split <;> rename_i ended <;> rw [known.all_hasEnded_iff] at ended
  · rw [Option.some.injEq]
    exact ⟨fun same => ⟨ended, same.symm⟩, fun ⟨_, same⟩ => same.symm⟩
  · exact ⟨nofun, fun ⟨cover, _⟩ => absurd cover ended⟩

end Supervisor

end Screencast
