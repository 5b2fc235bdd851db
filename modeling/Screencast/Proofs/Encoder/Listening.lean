import Screencast.Encoder.Listening
import Screencast.Proofs.Queue

/-!
What reaches the queues of a bridge, and what leaves them. An announcement of the encoder that
reports is a push on one of them; any other leaves everything as it was.
-/

namespace Screencast

namespace Listening

variable {l after : Listening} {encoder : Nat}

theorem input_accepted {index : Nat} (h : l.input encoder index = (after, .accepted)) :
    l.reporter = some encoder ∧ ∃ inputs, l.bridge.inputs.push index = (inputs, .accepted) ∧
      after = { l with bridge.inputs := inputs } := by
  rcases pushed : l.bridge.inputs.push index with ⟨inputs, reply⟩
  simp only [input, Bridge.onInput, pushed] at h
  split at h <;> cases h
  rename_i heard
  exact ⟨of_decide_eq_true heard, inputs, rfl, rfl⟩

theorem input_other {index : Nat} {reply : Pushed} (h : l.input encoder index = (after, reply))
    (other : reply ≠ .accepted) : after = l := by
  rcases pushed : l.bridge.inputs.push index with ⟨inputs, answer⟩
  simp only [input, Bridge.onInput, pushed] at h
  split at h <;> cases h
  · rw [Queue.push_other pushed other]
  · rfl

theorem output_accepted {o : OutputBuffer} (h : l.output encoder o = (after, .accepted)) :
    l.reporter = some encoder ∧ ∃ outputs, l.bridge.outputs.push o = (outputs, .accepted) ∧
      after = { l with bridge.outputs := outputs } := by
  rcases pushed : l.bridge.outputs.push o with ⟨outputs, reply⟩
  simp only [output, Bridge.onOutput, pushed] at h
  split at h <;> cases h
  rename_i heard
  exact ⟨of_decide_eq_true heard, outputs, rfl, rfl⟩

theorem output_other {o : OutputBuffer} {reply : Pushed} (h : l.output encoder o = (after, reply))
    (other : reply ≠ .accepted) : after = l := by
  rcases pushed : l.bridge.outputs.push o with ⟨outputs, answer⟩
  simp only [output, Bridge.onOutput, pushed] at h
  split at h <;> cases h
  · rw [Queue.push_other pushed other]
  · rfl

theorem takeInput_item {index : Nat} (h : l.takeInput = (after, .item index)) :
    ∃ inputs, l.bridge.inputs.take = (inputs, .item index) ∧
      after = { l with bridge.inputs := inputs } := by
  rcases taken : l.bridge.inputs.take with ⟨inputs, result⟩
  simp only [takeInput, taken] at h
  cases h
  exact ⟨inputs, rfl, rfl⟩

theorem takeInput_ended (h : l.takeInput = (after, .ended)) : after = l := by
  rcases taken : l.bridge.inputs.take with ⟨inputs, result⟩
  simp only [takeInput, taken] at h
  cases h
  rw [Queue.take_other taken (by simp)]

theorem takeOutput_item {o : OutputBuffer} (h : l.takeOutput = (after, .item o)) :
    ∃ outputs, l.bridge.outputs.take = (outputs, .item o) ∧
      after = { l with bridge.outputs := outputs } := by
  rcases taken : l.bridge.outputs.take with ⟨outputs, result⟩
  simp only [takeOutput, taken] at h
  cases h
  exact ⟨outputs, rfl, rfl⟩

theorem takeOutput_ended (h : l.takeOutput = (after, .ended)) : after = l := by
  rcases taken : l.bridge.outputs.take with ⟨outputs, result⟩
  simp only [takeOutput, taken] at h
  cases h
  rw [Queue.take_other taken (by simp)]

/-- Whoever takes an input buffer leaves another queue behind than whoever takes an output
buffer, or nothing. -/
theorem takeInput_shorter {index : Nat} (h : l.takeInput = (after, .item index)) :
    after.bridge.inputs.items.length + 1 = l.bridge.inputs.items.length ∧
      after.bridge.outputs = l.bridge.outputs := by
  obtain ⟨inputs, taken, rfl⟩ := takeInput_item h
  rw [(Queue.take_item taken).1]
  exact ⟨rfl, rfl⟩

theorem takeOutput_shorter {o : OutputBuffer} (h : l.takeOutput = (after, .item o)) :
    after.bridge.outputs.items.length + 1 = l.bridge.outputs.items.length ∧
      after.bridge.inputs = l.bridge.inputs := by
  obtain ⟨outputs, taken, rfl⟩ := takeOutput_item h
  rw [(Queue.take_item taken).1]
  exact ⟨rfl, rfl⟩

/-! ### Queues that were closed -/

/-- Nothing is taken from an encoder any more. -/
def Closed (l : Listening) : Prop :=
  l.bridge.inputs.isClosed = true ∧ l.bridge.outputs.isClosed = true

instance (l : Listening) : Decidable l.Closed := inferInstanceAs (Decidable (_ ∧ _))

theorem closed_close (l : Listening) : l.close.Closed := ⟨rfl, rfl⟩

theorem Closed.takeInput (closed : l.Closed) : l.takeInput.1.Closed :=
  ⟨(Queue.isClosed_take _).trans closed.1, closed.2⟩

theorem Closed.takeOutput (closed : l.Closed) : l.takeOutput.1.Closed :=
  ⟨closed.1, (Queue.isClosed_take _).trans closed.2⟩

theorem Closed.input (closed : l.Closed) (encoder index : Nat) :
    (l.input encoder index).1.Closed := by
  unfold Listening.input
  split
  · exact ⟨(Queue.isClosed_push ..).trans closed.1, closed.2⟩
  · exact closed

theorem Closed.output (closed : l.Closed) (encoder : Nat) (o : OutputBuffer) :
    (l.output encoder o).1.Closed := by
  unfold Listening.output
  split
  · exact ⟨closed.1, (Queue.isClosed_push ..).trans closed.2⟩
  · exact closed

theorem Closed.error (closed : l.Closed) (encoder : Nat) (e : EncoderError) :
    (l.error encoder e).Closed := by
  unfold Listening.error
  split <;> exact closed

theorem Closed.leave (closed : l.Closed) (encoder : Nat) : (l.leave encoder).Closed := by
  unfold Listening.leave
  split <;> exact closed

end Listening

end Screencast
