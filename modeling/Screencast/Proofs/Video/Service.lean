import Screencast.Proofs.Encoder.Listening
import Screencast.Proofs.Service
import Screencast.Proofs.Video.Refinement

/-!
What a video session notes of its calls is what it does. Every step asks the encoders and the
platform for the calls it notes, in their order and for nothing else, and closes the queues where
it says so (`step_performs`).
-/

namespace Screencast

namespace VideoCall

def encoder? : VideoCall → Option EncoderCall
  | .encoder call => some call
  | .display _ => none

def display? : VideoCall → Option DisplayCall
  | .encoder _ => none
  | .display call => some call

/-- There are new queues with every display. -/
def Opens : VideoCall → Prop
  | .display (.create _ _ (some _)) => True
  | _ => False

end VideoCall

namespace VideoSession

variable {σ : Type} [EncoderHost σ] {s s' : VideoSession σ} {d d' : Device} {a : Attempt}

/-- The calls that are noted were made. -/
structure Performs (s : VideoSession σ) (d : Device) (made : List VideoCall)
    (s' : VideoSession σ) (d' : Device) : Prop where
  calls : s'.calls = s.calls ++ made
  encoders : Asked EncoderHost.Takes s.host (made.filterMap (·.encoder?)) s'.host
  displays : Asked Platform.Takes d.platform (made.filterMap (·.display?)) d'.platform
  closes : ∀ encoder, .encoder (.closeQueues encoder) ∈ made → s'.listening = s.listening.close
  /-- Closed queues are not opened again. -/
  kept : s.listening.Closed → (∀ call ∈ made, ¬ call.Opens) → s'.listening.Closed

namespace Performs

theorem still (calls : s'.calls = s.calls) (host : s'.host = s.host)
    (platform : d'.platform = d.platform) (kept : s.listening.Closed → s'.listening.Closed) :
    s.Performs d [] s' d' where
  calls := by rw [calls, List.append_nil]
  encoders := by
    rw [host]
    exact .nil _
  displays := by
    rw [platform]
    exact .nil _
  closes := by simp
  kept closed _ := kept closed

/-- A single call on an encoder, other than to close its queues. -/
theorem call {call : EncoderCall} (takes : EncoderHost.Takes s.host (some call) s'.host)
    (calls : s'.calls = s.calls ++ [.encoder call]) (platform : d'.platform = d.platform)
    (bridge : s'.listening.bridge = s.listening.bridge)
    (other : ∀ encoder, call ≠ .closeQueues encoder) :
    s.Performs d [.encoder call] s' d' where
  calls := calls
  encoders := .one takes
  displays := by
    rw [platform]
    exact .nil _
  closes encoder member := by
    cases List.mem_singleton.mp member
    exact absurd rfl (other encoder)
  kept closed _ := by
    unfold Listening.Closed
    rw [bridge]
    exact closed

/-- The wish for an encoder comes to one call at most. -/
theorem creation {c : Creation σ} (settled : c.Settled s.host) (d : Device) (stage : VideoStage) :
    s.Performs d (c.calls.map .encoder)
      { s.record (c.calls.map .encoder) with host := c.host, stage } d := by
  have asked := settled.asked
  rcases settled.calls_eq with none | ⟨name, made, one⟩
  · rw [none] at asked ⊢
    exact ⟨rfl, asked, .nil _, by simp, fun closed _ => closed⟩
  · rw [one] at asked ⊢
    exact ⟨rfl, asked, .nil _, by simp, fun closed _ => closed⟩

end Performs

/-! ### One stage after the other -/

theorem openEncoder_performs (s : VideoSession σ) (d : Device) (size : Size) :
    ∃ made, s.Performs d made (s.openEncoder size) d := by
  have settled := openEncoder_settled s.host s.setup.codec.mime s.setup.encoderName
  unfold openEncoder
  dsimp only
  split <;> exact ⟨_, .creation settled d _⟩

theorem createDisplay_performs (s : VideoSession σ) (d : Device) (encoder : Nat) (size : Size) :
    ∃ made, s.Performs d made (s.createDisplay d encoder size).1
      (s.createDisplay d encoder size).2 := by
  unfold createDisplay
  dsimp only
  rcases answered : d.platform.createDisplay with ⟨platform, e | display⟩
  · exact ⟨_, rfl, .one (.release encoder), .one (.create answered), by simp,
      fun closed _ => closed⟩
  · refine ⟨_, rfl, .nil _, .one (.create answered), by simp, fun _ unopened => ?_⟩
    exact (unopened _ List.mem_cons_self trivial).elim

theorem configure_performs (s : VideoSession σ) (d : Device) (a : Attempt) :
    ∃ made, s.Performs d made (s.configure a) d := by
  unfold configure
  dsimp only
  split <;> exact ⟨_, .call (.configure ‹_›) rfl rfl rfl (by simp)⟩

theorem createSurface_performs (s : VideoSession σ) (d : Device) (a : Attempt) :
    ∃ made, s.Performs d made (s.createSurface a) d := by
  unfold createSurface
  dsimp only
  split <;> exact ⟨_, .call (.surface ‹_›) rfl rfl rfl (by simp)⟩

theorem bind_performs (s : VideoSession σ) (d : Device) (a : Attempt) (surface : Nat)
    (p : Projection) :
    ∃ made, s.Performs d made (s.bind d a surface p).1 (s.bind d a surface p).2 := by
  unfold bind
  dsimp only
  split <;> exact ⟨_, rfl, .nil _, .one (.setSurface ‹_›), by simp, fun closed _ => closed⟩

theorem startEncoder_performs (s : VideoSession σ) (d : Device) (a : Attempt) :
    ∃ made, s.Performs d made (s.startEncoder a) d := by
  unfold startEncoder
  dsimp only
  split <;> exact ⟨_, .call (.start ‹_›) rfl rfl rfl (by simp)⟩

theorem tearDown_performs (s : VideoSession σ) (d : Device) (a : Attempt)
    (ending : Except Error Ending) :
    s.Performs d (VideoCall.tearDown a.encoder a.display) (s.tearDown d a ending).1
      (s.tearDown d a ending).2 where
  calls := rfl
  encoders := .noted (.closeQueues _) (.noted (.stop _) (.one (.release _)))
  displays := .one (.destroy _)
  closes _ _ := rfl
  kept _ _ := s.listening.closed_close

/-! ### Stages that make no calls, or leave the choice to `pick` -/

theorem stopBranch_performs (d : Device) (h : s.stopBranch a = some s') :
    ∃ made, s.Performs d made s' d := by
  unfold stopBranch at h
  split at h <;> cases h
  exact ⟨[], .still rfl rfl rfl id⟩

theorem await_performs {pick : Nat} (h : s.await pick d a = some s') :
    ∃ made, s.Performs d made s' d := by
  have branches := mem_of_firstReady h
  simp only [List.mem_cons, List.not_mem_nil, or_false] at branches
  rcases branches with stopped | failed | turned | output
  · exact stopBranch_performs d stopped.symm
  · obtain ⟨e, -, rfl⟩ := Option.map_eq_some_iff.mp failed.symm
    exact ⟨[], .still rfl rfl rfl id⟩
  · unfold rotationBranch at turned
    split at turned <;> cases turned
    exact ⟨[], .still rfl rfl rfl id⟩
  · have left (closed : s.listening.Closed) : s.listening.takeOutput.1.Closed := closed.takeOutput
    unfold outputBranch at output
    split at output <;> rename_i taken <;> cases output <;> rw [taken] at left
    · exact ⟨[], .still rfl rfl rfl left⟩
    · exact ⟨[], .still rfl rfl rfl left⟩

theorem beginPacket_performs {made : List VideoCall} {output : OutputBuffer} {data : Bytes}
    (before : s.Performs d made s' d') :
    s.Performs d made (s'.beginPacket a output data) d' := by
  obtain ⟨framer, next, begun, -⟩ := s'.beginPacket_eq a output data
  rw [begun]
  exact ⟨before.calls, before.encoders, before.displays, before.closes, before.kept⟩

theorem deliver_performs (s : VideoSession σ) (d : Device) (a : Attempt) (output : OutputBuffer) :
    ∃ made, s.Performs d made (s.deliver a output) d := by
  have read (next : VideoSession σ) (host : next.host = s.host)
      (calls : next.calls = s.calls ++ [.encoder (.readOutput a.encoder output.index)])
      (listening : next.listening = s.listening) :
      s.Performs d [.encoder (.readOutput a.encoder output.index)] next d :=
    .call (host ▸ .readOutput ..) calls rfl (by rw [listening]) (by simp)
  unfold deliver
  split
  · exact ⟨[], .still rfl rfl rfl id⟩
  · dsimp only
    split
    · exact ⟨_, read _ rfl rfl rfl⟩
    · split
      · exact ⟨_, read _ rfl rfl rfl⟩
      · exact ⟨_, beginPacket_performs (read _ rfl rfl rfl)⟩

theorem sendHeader_performs {output : OutputBuffer} {data : Bytes} {t : Transfer} (d : Device)
    (h : s.sendHeader? a output data t = some s') : ∃ made, s.Performs d made s' d := by
  unfold sendHeader? at h
  split at h <;> cases h
  · exact ⟨[], .still rfl rfl rfl id⟩
  · exact ⟨[], beginPacket_performs (.still rfl rfl rfl id)⟩
  · exact ⟨[], .still rfl rfl rfl id⟩

theorem sendPacket_performs {output : OutputBuffer} {t : Transfer} (d : Device)
    (h : s.sendPacket? a output t = some s') : ∃ made, s.Performs d made s' d := by
  unfold sendPacket? at h
  split at h <;> cases h <;> exact ⟨[], .still rfl rfl rfl id⟩

theorem giveBack_performs (s : VideoSession σ) (d : Device) (a : Attempt) (output : OutputBuffer)
    (written : Except Error Unit) :
    ∃ made, s.Performs d made (s.giveBack a output written) d := by
  unfold giveBack
  dsimp only
  rcases answered : EncoderHost.returnOutput s.host a.encoder output.index with ⟨host, answer⟩
  have returns (stage : VideoStage) :
      ∃ made, s.Performs d made
        { s.record [.encoder (.returnOutput a.encoder output.index)] with host, stage } d :=
    ⟨_, .call (.returnOutput answered) rfl rfl rfl (by simp)⟩
  rw [show (s.record [.encoder (.returnOutput a.encoder output.index)]).host = s.host from rfl,
    answered]
  rcases answer with e | _
  · exact returns _
  · rcases written with e | _
    · exact returns _
    · dsimp only
      split <;> exact returns _

theorem conclude_performs (s : VideoSession σ) (d : Device) (size : Size)
    (ending : Except Error Ending) :
    s.Performs d [] (s.conclude d size ending).1 (s.conclude d size ending).2 := by
  have exits (result : Except Error Unit) :
      s.Performs d [] (s.exit result, d).1 (s.exit result, d).2 := by
    obtain ⟨framer, next, exits, -⟩ := s.exit_eq result
    rw [exits]
    exact .still rfl rfl rfl id
  unfold conclude
  split
  · exact .still rfl rfl rfl id
  · exact exits _
  · split
    · split
      · exact .still rfl rfl rfl id
      · exact exits _
    · exact exits _
  · exact exits _

theorem announce_performs {e : Error} {t : Transfer} (d : Device)
    (h : s.announce? e t = some s') : ∃ made, s.Performs d made s' d := by
  unfold announce? at h
  split at h <;> cases h <;> exact ⟨[], .still rfl rfl rfl id⟩

/-- Every step makes the calls that it notes. -/
theorem step_performs {pick : Nat} {after : VideoSession σ × Device}
    (h : s.step pick d = some after) : ∃ made, s.Performs d made after.1 after.2 := by
  cases advance_of_step h with
  | observe | measure | project => exact ⟨[], .still rfl rfl rfl id⟩
  | openEncoder => exact s.openEncoder_performs d _
  | createDisplay => exact s.createDisplay_performs d _ _
  | configure => exact s.configure_performs d _
  | createSurface => exact s.createSurface_performs d _
  | bind => exact s.bind_performs d _ _ _
  | startEncoder => exact s.startEncoder_performs d _
  | await stage ready => exact await_performs ready
  | stop delivering stopped => exact stopBranch_performs d stopped
  | deliver => exact s.deliver_performs d _ _
  | sendHeader stage sent => exact sendHeader_performs d sent
  | sendPacket stage sent => exact sendPacket_performs d sent
  | giveBack => exact s.giveBack_performs d _ _ _
  | tearDown => exact ⟨_, s.tearDown_performs d _ _⟩
  | conclude => exact ⟨[], s.conclude_performs d _ _⟩
  | announce stage told => exact announce_performs d told

/-- Whatever comes next, the session makes the calls that it notes. -/
def Faithful (s : VideoSession σ) (d : Device) : Prop :=
  ∀ pick after, s.step pick d = some after → ∃ made, s.Performs d made after.1 after.2

theorem faithful (s : VideoSession σ) (d : Device) : s.Faithful d := fun _ _ => step_performs

end VideoSession

end Screencast
