import Mathlib.Tactic.Common
import Screencast.Stream.Transfer

/-!
What becomes of bytes that are written to any sink. Those that a write takes are the first of what
it was offered, in order (`Sink.Took`); and a sink on which a write has failed takes nothing any
more, however much room it is given (`Sink.Dead`).
-/

namespace Screencast

namespace Sink

/-- After so many bytes every write fails or takes nothing. -/
def DeadAt (s : Sink) (total : Nat) : Prop :=
  (∃ bound e, s.failure = some (bound, e) ∧ bound ≤ total) ∨ s.quota total = 0

/-- Nothing more will be accepted. -/
def Dead (s : Sink) : Prop := s.DeadAt s.accepted.length

/-- After so many bytes there is no room, as long as nobody makes any. -/
def FullAt (s : Sink) (total : Nat) : Prop := ∃ bound, s.limit = some bound ∧ bound ≤ total

/-- Nothing more is accepted for now. -/
def Full (s : Sink) : Prop := s.FullAt s.accepted.length

variable {s : Sink} {total n k : Nat}

theorem Dead.drain (h : s.Dead) (n : Nat) : (s.drain n).Dead := h

theorem Dead.breakWith (s : Sink) (e : IoError) : (s.breakWith e).Dead :=
  .inl ⟨_, e, rfl, Nat.le_refl _⟩

theorem offer_limited_taken (h : offer.limited s total n = .taken k) :
    k ≤ n ∧ (k = 0 → n = 0) := by
  unfold offer.limited at h
  split at h
  · split at h <;> cases h
    omega
  · cases h
    exact ⟨Nat.le_refl _, id⟩

theorem offer_limited_ne_refused {e : IoError} : offer.limited s total n ≠ .refused e := by
  unfold offer.limited
  split
  · split <;> simp
  · simp

theorem offer_limited_full (h : offer.limited s total n = .full) : s.FullAt total := by
  unfold offer.limited at h
  split at h
  · rename_i bound limit
    split at h
    · exact ⟨bound, limit, by assumption⟩
    · cases h
  · cases h

theorem offer_full (h : s.offer total n = .full) : s.FullAt total := by
  unfold offer at h
  dsimp only at h
  split at h
  · split at h
    · cases h
    · exact offer_limited_full h
  · exact offer_limited_full h

theorem offer_refused {e : IoError} (h : s.offer total n = .refused e) : s.DeadAt total := by
  unfold offer at h
  dsimp only at h
  split at h
  · rename_i bound e' failure
    split at h
    · exact .inl ⟨bound, e', failure, by assumption⟩
    · exact absurd h offer_limited_ne_refused
  · exact absurd h offer_limited_ne_refused

/-- A write that takes nothing, with something on offer, will never take anything. -/
theorem offer_taken (h : s.offer total n = .taken k) :
    k ≤ n ∧ (k = 0 → 0 < n → s.quota total = 0) ∧ (s.DeadAt total → k = 0) := by
  unfold offer at h
  dsimp only at h
  split at h
  · rename_i bound e failure
    split at h
    · cases h
    · rename_i alive
      obtain ⟨fits, nothing⟩ := offer_limited_taken h
      refine ⟨by omega, by omega, ?_⟩
      rintro (⟨_, _, same, reached⟩ | none)
      · cases failure.symm.trans same
        exact absurd reached alive
      · omega
  · rename_i healthy
    obtain ⟨fits, nothing⟩ := offer_limited_taken h
    refine ⟨by omega, by omega, ?_⟩
    rintro (⟨_, _, failing, -⟩ | none)
    · simp [healthy] at failing
    · omega

/-- How far writing `n` bytes may come from `total`, and why it stops there. -/
structure Advanced (s : Sink) (total n : Nat) (reached : Nat) (outcome : Outcome) : Prop where
  forward : total ≤ reached
  within : reached ≤ total + n
  done : outcome = .done → reached = total + n
  stalled : outcome = .stalled → s.FullAt reached
  failed : ∀ e, outcome = .failed e → s.DeadAt reached
  dead : s.DeadAt total → reached = total

theorem advanced (s : Sink) (zero : IoError) (total n : Nat) :
    s.Advanced total n (s.advance zero total n).1 (s.advance zero total n).2 := by
  induction n using Nat.strongRecOn generalizing total with
  | ind n ih =>
    rw [advance]
    split
    · rename_i empty
      exact ⟨Nat.le_refl _, by simp, by simp [empty], by simp, by simp, fun _ => rfl⟩
    · rename_i some
      split
      · rename_i e refused
        exact ⟨Nat.le_refl _, by simp, by simp, by simp, fun _ _ => offer_refused refused,
          fun _ => rfl⟩
      · rename_i full
        exact ⟨Nat.le_refl _, by simp, by simp, fun _ => offer_full full, by simp, fun _ => rfl⟩
      · rename_i taken
        obtain ⟨-, nothing, -⟩ := offer_taken taken
        have closed : s.quota total = 0 := nothing rfl (Nat.pos_of_ne_zero some)
        exact ⟨Nat.le_refl _, by simp, by simp, by simp, fun _ _ => .inr closed, fun _ => rfl⟩
      · rename_i k taken
        obtain ⟨fits, -, dead⟩ := offer_taken taken
        have rest := ih (n - (k + 1)) (by omega) (total + (k + 1))
        have forward := rest.forward
        have within := rest.within
        refine ⟨by omega, by omega, fun finished => ?_, rest.stalled, rest.failed, fun gone => ?_⟩
        · have := rest.done finished
          omega
        · exact absurd (dead gone) (by simp)

/-- A write takes the first of the bytes on offer, and a failed one leaves the sink dead. -/
structure Took (s : Sink) (bytes taken rest : Bytes) (after : Sink) (written : Written) : Prop where
  split : bytes = taken ++ rest
  accepted : after.accepted = s.accepted ++ taken
  done : written = .done → rest = []
  stalled : ∀ left, written = .stalled left → left = rest ∧ after.Full
  failed : ∀ e, written = .failed e → after.Dead
  dead : s.Dead → taken = [] ∧ after.Dead

theorem writeOr_took (zero : IoError) (s : Sink) (bytes : Bytes) :
    ∃ taken rest, s.Took bytes taken rest (s.writeOr zero bytes).1 (s.writeOr zero bytes).2 := by
  have reached := s.advanced zero s.accepted.length bytes.length
  unfold writeOr
  dsimp only
  generalize s.advance zero s.accepted.length bytes.length = far at reached
  obtain ⟨total, outcome⟩ := far
  dsimp only at reached ⊢
  obtain ⟨forward, within, done, stalled, failed, dead⟩ := reached
  have length : (s.accepted ++ bytes.take (total - s.accepted.length)).length = total := by
    simp only [List.length_append, List.length_take]
    omega
  -- the sink afterwards is dead or full exactly if `s` is at the total that was reached
  have died : s.DeadAt total →
      DeadAt s (s.accepted ++ bytes.take (total - s.accepted.length)).length := by
    rw [length]
    exact id
  have filled : s.FullAt total →
      FullAt s (s.accepted ++ bytes.take (total - s.accepted.length)).length := by
    rw [length]
    exact id
  have stays : s.Dead → bytes.take (total - s.accepted.length) = [] ∧ s.DeadAt total := by
    intro gone
    have same : total = s.accepted.length := dead gone
    exact ⟨by simp [same], by rw [same]; exact gone⟩
  refine ⟨bytes.take (total - s.accepted.length), bytes.drop (total - s.accepted.length), ?_⟩
  cases outcome with
  | done =>
    refine ⟨(List.take_append_drop ..).symm, rfl, fun _ => ?_, by simp, by simp,
      fun gone => ⟨(stays gone).1, died (stays gone).2⟩⟩
    rw [done rfl]
    simp
  | stalled =>
    refine ⟨(List.take_append_drop ..).symm, rfl, by simp, ?_, by simp,
      fun gone => ⟨(stays gone).1, died (stays gone).2⟩⟩
    rintro left ⟨⟩
    exact ⟨rfl, filled (stalled rfl)⟩
  | failed e =>
    exact ⟨(List.take_append_drop ..).symm, rfl, by simp, by simp,
      fun _ _ => died (failed e rfl), fun gone => ⟨(stays gone).1, died (stays gone).2⟩⟩

theorem took {zero : IoError} {bytes : Bytes} {after : Sink} {written : Written}
    (h : s.writeOr zero bytes = (after, written)) :
    ∃ taken rest, s.Took bytes taken rest after written := by
  have took := s.writeOr_took zero bytes
  rwa [h] at took

/-- Writing does not change how much room the sink has in all. -/
theorem writeOr_limit (zero : IoError) (s : Sink) (bytes : Bytes) :
    (s.writeOr zero bytes).1.limit = s.limit := by
  unfold writeOr
  dsimp only
  split <;> rfl

/-- A write of which nothing was taken has found the sink as it left it. -/
theorem full_of_stalled {zero : IoError} {bytes left : Bytes} {after : Sink}
    (h : s.writeOr zero bytes = (after, .stalled left)) (nothing : left.length = bytes.length) :
    s.Full := by
  obtain ⟨taken, rest, took⟩ := took h
  obtain ⟨rfl, bound, some, reached⟩ := took.stalled left rfl
  have none : taken = [] := by
    have split := congrArg List.length took.split
    rw [List.length_append] at split
    exact List.eq_nil_of_length_eq_zero (by omega)
  have limit := writeOr_limit zero s bytes
  rw [h] at limit
  have same : after.accepted = s.accepted := by rw [took.accepted, none, List.append_nil]
  exact ⟨bound, limit.symm.trans some, same ▸ reached⟩

theorem write_took (s : Sink) (bytes : Bytes) :
    ∃ taken rest, s.Took bytes taken rest (s.write bytes).1 (s.write bytes).2 :=
  s.writeOr_took _ bytes

variable {t rest : Transfer} {after : Sink}

/-- A transfer waits only where the sink has made it wait before, and has no room. -/
theorem transfer_waits (h : (s.transfer t).2 = .waits) : t.stalled = true ∧ s.Full := by
  unfold transfer at h
  split at h
  · cases h
  · cases h
  · rename_i after rest written
    split at h
    · rename_i once
      obtain ⟨stalled, nothing⟩ := Bool.and_eq_true_iff.mp once
      exact ⟨stalled, full_of_stalled written (of_decide_eq_true nothing)⟩
    · cases h

/-- What a stalled transfer has left is what was not taken. -/
theorem transfer_stalls (h : s.transfer t = (after, .stalls rest)) :
    ∃ taken, after.accepted = s.accepted ++ taken ∧ t.rest = taken ++ rest.rest ∧
      (s.Dead → taken = [] ∧ after.Dead) := by
  obtain ⟨taken, left, took⟩ := s.write_took t.rest
  unfold transfer at h
  split at h
  · cases h
  · cases h
  · rename_i sink bytes written
    rw [written] at took
    split at h <;> cases h
    obtain ⟨rfl, -⟩ := took.stalled bytes rfl
    exact ⟨taken, took.accepted, took.split, took.dead⟩

theorem transfer_done (h : s.transfer t = (after, .ends (.ok ()))) :
    after.accepted = s.accepted ++ t.rest ∧ (s.Dead → t.rest = [] ∧ after.Dead) := by
  obtain ⟨taken, left, took⟩ := s.write_took t.rest
  unfold transfer at h
  split at h
  · rename_i sink written
    cases h
    rw [written] at took
    have all : t.rest = taken := by rw [took.split, took.done rfl, List.append_nil]
    rw [all]
    exact ⟨took.accepted, took.dead⟩
  · cases h
  · split at h <;> cases h

/-- After a transfer has failed, some of its bytes may be there, and no more will come. -/
theorem transfer_failed {e : Error} (h : s.transfer t = (after, .ends (.error e))) :
    ∃ taken, after.accepted = s.accepted ++ taken ∧ taken <+: t.rest ∧ after.Dead ∧
      (s.Dead → taken = []) := by
  obtain ⟨taken, left, took⟩ := s.write_took t.rest
  unfold transfer at h
  split at h
  · cases h
  · rename_i sink e written
    cases h
    rw [written] at took
    exact ⟨taken, took.accepted, ⟨left, took.split.symm⟩, took.failed _ rfl,
      fun gone => (took.dead gone).1⟩
  · split at h <;> cases h

/-! ### How much of a text is there -/

/-- Since it had `base`, the sink has taken the front of these bytes and nothing else. -/
def Has (s : Sink) (base all : Bytes) : Prop :=
  ∃ written, s.accepted = base ++ written ∧ written <+: all

/-- What the sink has not taken of these bytes is what the transfer has left. -/
def Owes (s : Sink) (base all : Bytes) (t : Transfer) : Prop :=
  ∃ written, s.accepted = base ++ written ∧ written ++ t.rest = all

variable {base all : Bytes}

theorem Owes.has (owes : s.Owes base all t) : s.Has base all := by
  obtain ⟨written, accepted, left⟩ := owes
  exact ⟨written, accepted, t.rest, left⟩

theorem Owes.stalls (owes : s.Owes base all t) (h : s.transfer t = (after, .stalls rest)) :
    after.Owes base all rest := by
  obtain ⟨written, accepted, left⟩ := owes
  obtain ⟨taken, more, split, -⟩ := transfer_stalls h
  refine ⟨written ++ taken, by rw [more, accepted, List.append_assoc], ?_⟩
  rw [List.append_assoc, ← split, left]

theorem Owes.done (owes : s.Owes base all t) (h : s.transfer t = (after, .ends (.ok ()))) :
    after.accepted = base ++ all := by
  obtain ⟨written, accepted, left⟩ := owes
  rw [(transfer_done h).1, accepted, List.append_assoc, left]

theorem Owes.ends (owes : s.Owes base all t) {result : Except Error Unit}
    (h : s.transfer t = (after, .ends result)) : after.Has base all := by
  rcases result with e | _
  · obtain ⟨written, accepted, left⟩ := owes
    obtain ⟨taken, more, ⟨missing, begins⟩, -⟩ := transfer_failed h
    refine ⟨written ++ taken, by rw [more, accepted, List.append_assoc], missing, ?_⟩
    rw [List.append_assoc, begins, left]
  · exact ⟨all, owes.done h, List.prefix_refl all⟩

end Sink

end Screencast
