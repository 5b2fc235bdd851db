import Mathlib.Tactic.Common
import Screencast.Stream.Channel
import Screencast.Stream.Transfer

/-!
Calls on a sink that takes whatever it is offered, in writes as short as it likes. There the framer
alone decides what is written and what the calls return (`run_open`).
-/

namespace Screencast

namespace Sink

variable {s : Sink}

/-- Every write takes a byte or more, and none fails or waits. -/
structure Open (s : Sink) : Prop where
  quota : ∀ total, 0 < s.quota total
  failure : s.failure = none
  limit : s.limit = none

/-- The sink once it has taken all these bytes and was flushed. -/
def taking (s : Sink) (bytes : Bytes) : Sink :=
  { s with accepted := s.accepted ++ bytes, flushes := s.flushes + 1 }

namespace Open

theorem taking (h : s.Open) (bytes : Bytes) : (s.taking bytes).Open :=
  ⟨h.quota, h.failure, h.limit⟩

theorem offer (h : s.Open) (total n : Nat) : s.offer total n = .taken (min n (s.quota total)) := by
  simp only [Sink.offer, Sink.offer.limited, h.failure, h.limit]

theorem advance (h : s.Open) (zero : IoError) (total n : Nat) :
    s.advance zero total n = (total + n, .done) := by
  induction n using Nat.strongRecOn generalizing total with
  | ind n ih =>
    rw [Sink.advance, h.offer]
    by_cases done : n = 0
    · simp [done]
    · have room := h.quota total
      obtain ⟨k, hk⟩ : ∃ k, min n (s.quota total) = k + 1 := ⟨min n (s.quota total) - 1, by omega⟩
      simp only [done, hk, ↓reduceIte]
      rw [ih _ (by omega)]
      exact Prod.ext (by dsimp; omega) rfl

theorem write (h : s.Open) (bytes : Bytes) : s.write bytes = (s.taking bytes, .done) := by
  simp [Sink.write, writeOr, h.advance, Sink.taking]

theorem transfer (h : s.Open) (t : Transfer) :
    s.transfer t = (s.taking t.rest, .ends (.ok ())) := by
  rw [Sink.transfer, h.write]

theorem drain (h : s.Open) (n : Nat) : (s.drain n).Open :=
  ⟨h.quota, h.failure, Option.map_eq_none_iff.mpr h.limit⟩

/-- Going on with a transfer, or not, leaves a sink open. -/
theorem moved {after : Sink} (h : s.Open) (moved : after = s ∨ ∃ t, after = (s.transfer t).1) :
    after.Open := by
  rcases moved with rfl | ⟨t, rfl⟩
  · exact h
  · rw [h.transfer]
    exact h.taking _

end Open

/-- A write changes what was taken, and the number of flushes. -/
theorem writeOr_sink (zero : IoError) (s : Sink) (bytes : Bytes) :
    ∃ accepted flushes, (s.writeOr zero bytes).1 = { s with accepted, flushes } := by
  unfold writeOr
  dsimp only
  split <;> exact ⟨_, _, rfl⟩

/-- A transfer leaves it to the sink what it takes. -/
theorem open_of_transfer {t : Transfer} (h : (s.transfer t).1.Open) : s.Open := by
  obtain ⟨accepted, flushes, wrote⟩ := s.writeOr_sink ⟨.writeZero, none⟩ t.rest
  rw [← Sink.write] at wrote
  have opened : (s.write t.rest).1.Open ∨ s.Open := by
    unfold transfer at h
    split at h
    · rename_i written
      exact .inl (written ▸ h)
    · rename_i written
      exact .inl (written ▸ h)
    · rename_i written
      split at h
      · exact .inr h
      · exact .inl (written ▸ h)
  rcases opened with after | before
  · rw [wrote] at after
    exact ⟨after.quota, after.failure, after.limit⟩
  · exact before

end Sink

open Channel (Call Reply)

/-- A call whose bytes are all taken: the framer after it, the bytes, and what it returns. -/
def Framer.step (f : Framer) (call : Call) : Framer × Bytes × Reply :=
  match call.frame f with
  | .error e => (f, [], .error e)
  | .ok (f, output) => (f, output.getD [], .ok)

/-- Calls whose bytes are all taken, one after the other. -/
def Framer.run (f : Framer) : List Call → Framer × Bytes × List Reply
  | [] => (f, [], [])
  | call :: calls =>
    let (f, bytes, reply) := f.step call
    let (f, more, replies) := f.run calls
    (f, bytes ++ more, reply :: replies)

namespace Channel

/-- Calls one after the other, whatever the earlier ones returned. -/
def run (c : Channel) : List Call → Channel × List Reply
  | [] => (c, [])
  | call :: calls =>
    let (c, reply) := c.perform call
    let (c, replies) := c.run calls
    (c, reply :: replies)

theorem perform_open {c : Channel} (h : c.sink.Open) (call : Call) :
    ∃ after : Channel, c.perform call = (after, (c.framer.step call).2.2) ∧ after.sink.Open ∧
      after.framer = (c.framer.step call).1 ∧
      after.sink.accepted = c.sink.accepted ++ (c.framer.step call).2.1 := by
  unfold perform Framer.step
  match call.frame c.framer with
  | .error e => exact ⟨c, rfl, h, rfl, by simp⟩
  | .ok (f, none) => exact ⟨⟨f, c.sink⟩, rfl, h, rfl, by simp⟩
  | .ok (f, some bytes) =>
    exact ⟨⟨f, c.sink.taking bytes⟩, by simp [h.write], h.taking bytes, rfl, rfl⟩

theorem run_open {c : Channel} (h : c.sink.Open) (calls : List Call) :
    ∃ after : Channel, c.run calls = (after, (c.framer.run calls).2.2) ∧ after.sink.Open ∧
      after.framer = (c.framer.run calls).1 ∧
      after.sink.accepted = c.sink.accepted ++ (c.framer.run calls).2.1 := by
  induction calls generalizing c with
  | nil => exact ⟨c, rfl, h, rfl, by simp [Framer.run]⟩
  | cons call calls ih =>
    obtain ⟨next, performed, opened, framer, taken⟩ := perform_open h call
    obtain ⟨after, ran, still, last, more⟩ := ih opened
    rw [framer] at ran last more
    refine ⟨after, ?_, still, last, ?_⟩
    · simp only [run, Framer.run, performed, ran]
    · rw [more, taken, List.append_assoc, Framer.run]

end Channel

end Screencast
