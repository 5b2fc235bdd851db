import Screencast.Control.Writer
import Screencast.Proofs.Bytes
import Screencast.Proofs.Control.Outbox
import Screencast.Proofs.Scheduling
import Screencast.Proofs.Stream.Transfer
import Screencast.Proofs.Text.Truncate

/-!
What the writer of device messages can do in one step (`step_taken`), and when it has to wait
(`waits`). A poll never ends but where it has to wait, since each step takes the writer further
(`step_poll`).
-/

namespace Screencast

theorem DeviceMessage.length_encode_le (m : DeviceMessage) : m.encode.length ≤ messageMax := by
  cases m with
  | ack sequence => simp [encode, messageMax]
  | clipboard text =>
    have fits := (Text.truncate_longest text deviceClipboardTextMax).fits
    simp only [encode, prefixedText, List.length_append, Bytes.length_ofNat, length_utf8]
    unfold deviceClipboardTextMax messageMax at *
    omega

namespace MessageWriter

/-- What one step can do. Where it takes a message from the outbox, that is the message. -/
inductive Step (w : MessageWriter) : Option DeviceMessage → MessageWriter → Prop where
  | halt (stopping : w.stopping = true) (between : ∀ rest, w.stage ≠ .writing rest)
      (running : ∀ result, w.stage ≠ .ended result) :
      Step w none { w with stage := .ended (.ok ()) }
  | take {m : DeviceMessage} {outbox : Outbox} (stage : w.stage = .looking)
      (found : w.outbox.take? = some (m, outbox)) :
      Step w (some m) { w with outbox, stage := .writing m.encode }
  | miss (stage : w.stage = .looking) (empty : w.outbox.take? = none) :
      Step w none { w with stage := .tiring }
  | lookAgain (stage : w.stage = .tiring) (permit : w.permit = true) :
      Step w none { w with permit := false, stage := .looking }
  | fallAsleep (stage : w.stage = .tiring) (permit : w.permit = false) :
      Step w none { w with stage := .asleep false }
  | getUp (stage : w.stage = .asleep true) : Step w none { w with stage := .looking }
  | finish {rest : Bytes} {sink : Sink} (stage : w.stage = .writing rest)
      (written : w.sink.writeOr stuck rest = (sink, .done)) :
      Step w none { w with sink, stage := .looking }
  | fail {rest : Bytes} {sink : Sink} {e : IoError} (stage : w.stage = .writing rest)
      (written : w.sink.writeOr stuck rest = (sink, .failed e)) :
      Step w none { w with sink, stage := .ended (.error (.io e)) }
  | partly {rest left : Bytes} {sink : Sink} (stage : w.stage = .writing rest)
      (written : w.sink.writeOr stuck rest = (sink, .stalled left))
      (shorter : left.length ≠ rest.length) :
      Step w none { w with sink, stage := .writing left }

/-- The message that a step has taken from the outbox. -/
def taken? (w after : MessageWriter) : Option DeviceMessage :=
  match w.stage, after.stage with
  | .looking, .writing _ => w.outbox.take?.map (·.1)
  | _, _ => none

variable {w after : MessageWriter} {pick : Nat}

theorem seek?_taken (h : w.seek? = some after) : Step w (w.taken? after) after := by
  unfold seek? at h
  split at h
  · rename_i stage
    cases h
    unfold look
    split
    · rename_i m outbox found
      simpa [taken?, stage, found] using Step.take stage found
    · rename_i empty
      simpa [taken?, stage] using Step.miss stage empty
  · rename_i stage
    cases h
    unfold tire
    split
    · rename_i permit
      simpa [taken?, stage] using Step.lookAgain stage permit
    · rename_i permit
      simpa [taken?, stage] using Step.fallAsleep stage (by simpa using permit)
  · rename_i stage
    cases h
    simpa [taken?, stage] using Step.getUp stage
  · cases h

theorem write?_taken {rest : Bytes} (stage : w.stage = .writing rest)
    (h : w.write? rest = some after) : Step w none after := by
  unfold write? at h
  split at h
  · rename_i sink written
    cases h
    exact .finish stage written
  · rename_i sink e written
    cases h
    exact .fail stage written
  · rename_i sink left written
    split at h
    · cases h
    · rename_i shorter
      cases h
      exact .partly stage written shorter

theorem step_taken (h : w.step pick = some after) : Step w (w.taken? after) after := by
  unfold step at h
  split at h
  · cases h
  · rename_i rest stage
    have none : w.taken? after = none := by simp [taken?, stage]
    rw [none]
    exact write?_taken stage h
  · rename_i running between
    have branches := mem_of_firstReady h
    simp only [List.mem_cons, List.not_mem_nil, or_false] at branches
    obtain stopped | sought := branches
    · split at stopped <;> cases stopped
      rename_i stopping
      have none : w.taken? { w with stage := .ended (.ok ()) } = none := by
        simp only [taken?]
        cases w.stage <;> rfl
      rw [none]
      exact .halt stopping between running
    · exact seek?_taken sought.symm

theorem full_of_write? {rest : Bytes} (h : w.write? rest = none) : w.sink.Full := by
  unfold write? at h
  split at h
  · cases h
  · cases h
  · rename_i sink left written
    split at h
    · rename_i nothing
      exact Sink.full_of_stalled written nothing
    · cases h

/-- Where a writer is that has to wait. -/
theorem waits (h : w.step pick = none) :
    match w.stage with
    | .looking | .tiring | .asleep true => False
    | .asleep false => w.stopping = false
    | .writing _ => w.sink.Full
    | .ended _ => True := by
  unfold step at h
  split at h
  · rename_i result stage
    simp [stage]
  · rename_i rest stage
    simpa [stage] using full_of_write? h
  · rename_i running between
    obtain ⟨stopped, sought⟩ := firstReady_eq_none h
    cases stage : w.stage with
    | looking | tiring => simp [seek?, stage] at sought
    | asleep woken =>
      cases woken with
      | false => simpa using stopped
      | true => simp [seek?, stage] at sought
    | writing rest => exact absurd stage (between rest)
    | ended result => trivial

end MessageWriter

/-! ### How far the writer is from having to wait -/

def WriterStage.distance : WriterStage → Nat
  | .ended _ => 0
  | .asleep false => 1
  | .tiring => 2
  | .looking => 3
  | .asleep true => 4
  | .writing rest => rest.length + 4

/-- No message takes more steps than the longest one. -/
def Outbox.distance (o : Outbox) : Nat := o.pending.length * (messageMax + 2)

theorem Outbox.distance_le (o : Outbox) : o.distance ≤ 2 * (messageMax + 2) :=
  Nat.mul_le_mul_right _ o.length_pending_le

namespace MessageWriter

variable {w after : MessageWriter} {taken : Option DeviceMessage} {pick : Nat}

def distance (w : MessageWriter) : Nat :=
  w.stage.distance + w.outbox.distance + if w.permit then 2 else 0

theorem Step.distance_lt (step : Step w taken after) : after.distance < w.distance := by
  cases step with
  | halt stopping between running =>
    have far : 0 < w.stage.distance := by
      cases stage : w.stage with
      | ended result => exact absurd stage (running result)
      | asleep woken => cases woken <;> simp [WriterStage.distance]
      | looking | tiring | writing => simp [WriterStage.distance]
    have ended : (WriterStage.ended (.ok ())).distance = 0 := rfl
    simp only [distance, ended]
    omega
  | @take m outbox stage found =>
    have fits := m.length_encode_le
    simp only [distance, stage, WriterStage.distance, Outbox.distance,
      Outbox.pending_of_take found, List.length_cons, Nat.add_mul, Nat.one_mul]
    omega
  | miss stage | fallAsleep stage | getUp stage | finish stage | fail stage =>
    simp only [distance, stage, WriterStage.distance]
    omega
  | lookAgain stage permit =>
    simp only [distance, stage, permit, WriterStage.distance, ↓reduceIte, Bool.false_eq_true]
    omega
  | @partly rest left sink stage written shorter =>
    obtain ⟨taken, remaining, took⟩ := Sink.took written
    have split := congrArg List.length took.split
    rw [← (took.stalled left rfl).1, List.length_append] at split
    simp only [distance, stage, WriterStage.distance]
    omega

/-- No message is longer than it may be. -/
def Bounded (w : MessageWriter) : Prop := ∀ rest, w.stage = .writing rest → rest.length ≤ messageMax

theorem Step.bounded (step : Step w taken after) (bounded : w.Bounded) : after.Bounded := by
  cases step with
  | @take m outbox stage found =>
    rintro rest ⟨⟩
    exact m.length_encode_le
  | @partly rest left sink stage written shorter =>
    rintro _ ⟨⟩
    obtain ⟨taken, remaining, took⟩ := Sink.took written
    have split := congrArg List.length took.split
    rw [← (took.stalled left rfl).1, List.length_append] at split
    have fits := bounded rest stage
    omega
  | halt | miss | lookAgain | fallAsleep | getUp | finish | fail => rintro _ ⟨⟩

/-- As far as a writer can be. -/
def farthest : Nat := 3 * messageMax + 10

theorem Bounded.distance_le (bounded : w.Bounded) : w.distance ≤ farthest := by
  have outbox := w.outbox.distance_le
  have permit : (if w.permit then 2 else 0) ≤ 2 := by split <;> omega
  have stage : w.stage.distance ≤ messageMax + 4 := by
    cases stage : w.stage with
    | writing rest => exact Nat.add_le_add_right (bounded rest stage) 4
    | asleep woken => cases woken <;> simp [WriterStage.distance]
    | looking | tiring | ended => simp [WriterStage.distance]
  simp only [distance, farthest]
  omega

/-- A poll goes on until the writer has to wait. -/
theorem step_poll (bounded : w.Bounded) (pick : Nat) : (w.poll pick).step pick = none := by
  have enough : w.distance ≤ patience := Nat.le_trans bounded.distance_le (by decide)
  exact step_settle (P := fun _ => True) (fun _ _ => trivial) distance
    (fun _ stepped => (step_taken stepped).distance_lt) trivial enough

end MessageWriter

end Screencast
