import Screencast.Proofs.Control.Posting

/-!
A writer that is to stop. Once it is polled it has ended, unless it is in the middle of a message of
which its sink takes no more (`halted_of_run`). There it stays, and whoever waits for it
(`stalled_past_stop`).
-/

namespace Screencast

/-- What is left to write of the message that is being written. -/
def WriterStage.rest : WriterStage → Bytes
  | .writing rest => rest
  | _ => []

namespace MessageWriter

variable {w a b : MessageWriter} {pick : Nat}

theorem Step.stopping {taken : Option DeviceMessage} (step : Step w taken a) :
    a.stopping = w.stopping := by
  cases step <;> rfl

theorem stopping_of_poll (stopping : w.stopping = true) (pick : Nat) :
    (w.poll pick).stopping = true :=
  settle_invariant (P := fun a => a.stopping = true)
    (fun stopping step => (step_taken step).stopping.trans stopping) stopping patience

/-- A writer that hears of its stop first ends between two messages. -/
theorem step_of_stopping (stopping : w.stopping = true) (first : pick % 2 = 0) :
    w.step pick = match w.stage with
      | .ended _ => none
      | .writing rest => w.write? rest
      | _ => some { w with stage := .ended (.ok ()) } := by
  unfold step
  cases w.stage <;> simp [firstReady_pair, first, stopping]

/-- What `w` comes to once it begins no further message. -/
structure Winding (w a : MessageWriter) : Prop where
  stopping : a.stopping = true
  outbox : a.outbox = w.outbox
  written : ∃ taken, a.sink.accepted = w.sink.accepted ++ taken ∧
    taken ++ a.stage.rest <+: w.stage.rest
  begun : ∀ rest, a.stage = .writing rest → ∃ whole, w.stage = .writing whole

theorem Winding.refl (stopping : w.stopping = true) : Winding w w where
  stopping := stopping
  outbox := rfl
  written := ⟨[], by simp, by simp⟩
  begun rest stage := ⟨rest, stage⟩

theorem Winding.trans (before : Winding w a) (after : Winding a b) : Winding w b where
  stopping := after.stopping
  outbox := after.outbox.trans before.outbox
  written := by
    obtain ⟨taken, accepted, front⟩ := before.written
    obtain ⟨more, accepted', front'⟩ := after.written
    refine ⟨taken ++ more, by rw [accepted', accepted, List.append_assoc], ?_⟩
    rw [List.append_assoc]
    exact (List.prefix_append_right_inj taken).mpr front' |>.trans front
  begun rest stage := by
    obtain ⟨_, stage⟩ := after.begun rest stage
    exact before.begun _ stage

theorem winding_of_write {rest : Bytes} (stopping : w.stopping = true)
    (stage : w.stage = .writing rest) (h : w.write? rest = some a) : Winding w a := by
  have begun : w.stage.rest = rest := by rw [stage]; rfl
  unfold write? at h
  split at h
  · rename_i sink written
    cases h
    obtain ⟨taken, left, took⟩ := Sink.took written
    refine ⟨stopping, rfl, ⟨taken, took.accepted, ?_⟩, by rintro _ ⟨⟩⟩
    rw [begun, took.split]
    simp [WriterStage.rest]
  · rename_i sink e written
    cases h
    obtain ⟨taken, left, took⟩ := Sink.took written
    refine ⟨stopping, rfl, ⟨taken, took.accepted, ?_⟩, by rintro _ ⟨⟩⟩
    rw [begun, took.split]
    simp [WriterStage.rest]
  · rename_i sink left written
    split at h
    · cases h
    · cases h
      obtain ⟨taken, remaining, took⟩ := Sink.took written
      obtain ⟨rfl, -⟩ := took.stalled left rfl
      refine ⟨stopping, rfl, ⟨taken, took.accepted, ?_⟩, fun _ _ => ⟨rest, stage⟩⟩
      rw [begun, took.split]
      exact List.prefix_refl _

theorem winding_of_step (stopping : w.stopping = true) (first : pick % 2 = 0)
    (h : w.step pick = some a) : Winding w a := by
  rw [step_of_stopping stopping first] at h
  split at h
  · cases h
  · rename_i rest stage
    exact winding_of_write stopping stage h
  · cases h
    exact ⟨stopping, rfl, ⟨[], by simp, by simp [WriterStage.rest]⟩, by rintro _ ⟨⟩⟩

theorem winding_of_poll (stopping : w.stopping = true) (first : pick % 2 = 0) :
    Winding w (w.poll pick) :=
  settle_invariant (P := Winding w)
    (fun winding step => winding.trans (winding_of_step winding.stopping first step))
    (.refl stopping) patience

/-- A writer that is to stop waits only for its sink. -/
theorem waits_for_sink (stopping : w.stopping = true) (waits : w.step pick = none) :
    match w.stage with
    | .ended _ => True
    | .writing _ => w.sink.Full
    | .looking | .tiring | .asleep _ => False := by
  have place := MessageWriter.waits waits
  cases stage : w.stage with
  | asleep woken => cases woken <;> simp [stage, stopping] at place
  | looking | tiring => simp [stage] at place
  | writing rest => simpa [stage] using place
  | ended result => trivial

end MessageWriter

namespace WriterWorld

open PostEvent MessageWriter

/-- What is left of the message that is being written has not been sent yet. -/
theorem Untorn.begun {base : Bytes} {w : WriterWorld} (untorn : Untorn base w) :
    ∃ written, w.writer.sink.accepted = base ++ written ∧
      written ++ w.writer.stage.rest <+: sent w.events := by
  obtain ⟨written, missing, accepted, all, left⟩ := untorn
  refine ⟨written, accepted, ?_⟩
  cases stage : w.writer.stage with
  | writing rest =>
    obtain rfl : missing = rest := by simpa [stage] using left
    exact ⟨[], by simpa [WriterStage.rest] using all⟩
  | looking | tiring | asleep | ended => exact ⟨missing, by simpa [WriterStage.rest] using all⟩

/-- The poll after a stop ends the writer, unless the sink is full in the middle of a message. A
writer that hears of its stop first leaves what was pending, and sends no more than what it had
taken before; it ends for certain if it was not writing. -/
theorem halted_of_run (sink : Sink) (moves : List WriterMove) (pick : Nat) :
    let w := WriterWorld.run { writer := { sink } } (moves ++ [.stop])
    let after := w.writer.poll pick
    (match after.stage with
      | .ended _ => True
      | .writing _ => after.sink.Full
      | .looking | .tiring | .asleep _ => False) ∧
    (pick % 2 = 0 →
      after.outbox = w.writer.outbox ∧
      (∃ written, after.sink.accepted = sink.accepted ++ written ∧ written <+: sent w.events) ∧
      (after.hasEnded = true ∨ ∃ rest, w.writer.stage = .writing rest)) := by
  intro w after
  have stopping : w.writer.stopping = true := by
    simp [w, run_append, run, apply, MessageWriter.stop]
  obtain ⟨begun, accepted, all⟩ := (untorn_run sink (moves ++ [.stop])).begun
  have place := waits_for_sink (stopping_of_poll stopping pick)
    (step_poll (bounded_run sink (moves ++ [.stop])) pick)
  refine ⟨place, fun first => ?_⟩
  have winding := winding_of_poll stopping first
  refine ⟨winding.outbox, ?_, ?_⟩
  · obtain ⟨taken, accepted', front⟩ := winding.written
    refine ⟨begun ++ taken, by rw [accepted', accepted, List.append_assoc], ?_⟩
    exact ((List.prefix_append_right_inj begun).mpr
      ((List.prefix_append taken _).trans front)).trans all
  · cases stage : after.stage with
    | ended result => exact .inl (by simp [hasEnded, stage])
    | writing rest => exact .inr (winding.begun rest stage)
    | looking | tiring | asleep => exact absurd place (by simp [after, stage])

/-- Three bytes of an acknowledgement are there when the writer is to stop, and the desktop reads no
more: the writer does not end. Where it is to stop before it has looked into the outbox, it may
still send what is pending. -/
theorem stalled_past_stop :
    (let w := WriterWorld.run { writer := { sink := { limit := some 3 } } }
      [.leave (.ack 7), .wake, .go 0, .go 0, .stop]
    w.writer.stopping = true ∧ ∀ pick, (w.writer.poll pick).hasEnded = false) ∧
    (let w := WriterWorld.run { writer := {} } [.leave (.ack 7), .wake, .stop]
    w.writer.stopping = true ∧ (w.writer.poll 1).sink.accepted = (DeviceMessage.ack 7).encode) := by
  constructor
  · intro w
    have stalled : w.writer =
        { permit := true
          stage := .writing [0, 0, 0, 0, 0, 7]
          stopping := true
          sink := { accepted := [1, 0, 0], limit := some 3 } } := by
      simp [w, run, apply, left, advanced, leave, wake, MessageWriter.stop, step, look, write?,
        firstReady_pair, seek?, Outbox.push, Outbox.take?, Sink.writeOr, Sink.advance, Sink.offer,
        Sink.offer.limited, DeviceMessage.encode, Bytes.ofNat]
    refine ⟨by rw [stalled], fun pick => ?_⟩
    have waits : w.writer.step pick = none := by
      simp [stalled, step, write?, Sink.writeOr, Sink.advance, Sink.offer, Sink.offer.limited]
    have same : w.writer.poll pick = w.writer := settle_of_waits waits patience
    rw [same, stalled, hasEnded]
  · refine ⟨rfl, ?_⟩
    have enough : patience = 0xfffffff8 + 8 := rfl
    simp [poll, enough, settle, run, apply, left, leave, wake, MessageWriter.stop, step, look, tire,
      write?, firstReady_pair, seek?, Outbox.push, Outbox.take?, Sink.writeOr, Sink.advance,
      Sink.offer, Sink.offer.limited, DeviceMessage.encode, Bytes.ofNat]

end WriterWorld

end Screencast
