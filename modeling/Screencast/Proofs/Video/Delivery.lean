import Screencast.Proofs.Video.Run

/-!
The buffers that a session fetches, in the order in which it does, over all attempts. Each comes
from an encoder that was configured last with the size of its attempt (`Announced`).
-/

namespace Screencast

/-- A buffer that was fetched in an attempt of some size, and the format that an encoder was
configured with last. -/
structure Delivery where
  size : Size
  format : Option EncoderFormat
  unit : AccessUnit
deriving DecidableEq, Repr

namespace VideoStage

/-- The attempt under way, once its encoder has a format. -/
def configured? : VideoStage → Option Attempt
  | .createSurface a | .project a _ | .bind a _ _ | .startEncoder a | .await a | .deliver a _
  | .sendHeader a _ _ _ | .sendPacket a _ _ | .giveBack a _ _ => some a
  | _ => none

theorem Working.configured? {stage : VideoStage} {a : Attempt} (h : stage.Working a) :
    stage.configured? = some a := by
  unfold Working at h
  split at h
  all_goals first | rw [← h]; rfl | contradiction

end VideoStage

namespace VideoOutline

/-- The format that an encoder was configured with last. -/
def lastFormat? (calls : List VideoCall) : Option EncoderFormat :=
  (calls.filterMap VideoCall.configured?).getLast?

/-- What a step fetches. -/
def deliveries (_ : VideoOutline) (fetched : Option Fetched) (after : VideoOutline) :
    List Delivery :=
  (fetched.map fun f => ⟨f.attempt.size, lastFormat? after.calls, f.unit⟩).toList

variable {seen : List Delivery} {s s' : VideoOutline} {g g' : DeviceGeometry}
  {fetched : Option Fetched}

/-- What a session has fetched was encoded in the size that the encoder had been given last. -/
structure Announced (format : EncoderFormat) (seen : List Delivery) (s : VideoOutline) : Prop where
  base : s.baseFormat = format
  told : ∀ d ∈ seen, d.format = some (format.withSize d.size)
  now : ∀ a ∈ s.stage.configured?, lastFormat? s.calls = some (format.withSize a.size)

variable {format : EncoderFormat}

theorem lastFormat?_append {calls more : List VideoCall}
    (plain : ∀ call ∈ more, call.configured? = none) :
    lastFormat? (calls ++ more) = lastFormat? calls :=
  lastTold?_append plain

theorem Announced.keep (announced : Announced format seen s) (calls : List VideoCall)
    (made : s'.calls = s.calls ++ calls) (plain : ∀ call ∈ calls, call.configured? = none)
    (setup : s'.setup = s.setup)
    (same : s'.stage.configured? = none ∨ s'.stage.configured? = s.stage.configured?) :
    Announced format seen s' := by
  refine ⟨?_, announced.told, fun a current => ?_⟩
  · rw [← announced.base]
    simp only [VideoSession.baseFormat, setup]
  · rw [made, lastFormat?_append plain]
    rcases same with ended | same
    · simp [ended] at current
    · exact announced.now a (same ▸ current)

theorem beginPacket_configured? (s : VideoOutline) (a : Attempt) (output : OutputBuffer)
    (data : Bytes) : (s.beginPacket a output data).stage.configured? = some a := by
  obtain ⟨framer, next, begun, ⟨result, rfl⟩ | ⟨t, rfl⟩⟩ := s.beginPacket_eq a output data <;>
    rw [begun] <;> rfl

theorem exit_configured? (s : VideoOutline) (result : Except Error Unit) :
    (s.exit result).stage.configured? = none := by
  obtain ⟨framer, next, exits, rfl | ⟨e, t, rfl, rfl⟩⟩ := s.exit_eq result <;> rw [exits] <;> rfl

theorem Announced.unfetched (announced : Announced format seen s') :
    Announced format (seen ++ s.deliveries none s') s' := by
  simpa [deliveries] using announced

/-- A buffer is fetched in the attempt under way. -/
theorem Announced.fetch (announced : Announced format seen s') {a : Attempt} {unit : AccessUnit}
    (current : s'.stage.configured? = some a) :
    Announced format (seen ++ s.deliveries (some ⟨a, unit⟩) s') s' := by
  refine ⟨announced.base, fun d member => ?_, announced.now⟩
  rcases List.mem_append.mp member with before | last
  · exact announced.told d before
  · obtain rfl : d = ⟨a.size, lastFormat? s'.calls, unit⟩ := by simpa [deliveries] using last
    exact announced.now a current

theorem Announced.configure (announced : Announced format seen s) {a : Attempt} {next : VideoStage}
    (goesOn : next.configured? = some a ∨ next.configured? = none) :
    Announced format seen
      { s.record [.encoder (.configure a.encoder (s.baseFormat.withSize a.size))] with
        stage := next } := by
  refine ⟨announced.base, announced.told, fun b current => ?_⟩
  obtain rfl : a = b := by
    rcases goesOn with same | ended
    · exact Option.some.inj (same.symm.trans current)
    · exact absurd (ended.symm.trans current) (by simp)
  simp [VideoSession.record, lastFormat?, VideoCall.configured?, announced.base]

theorem Announced.step (announced : Announced format seen s) (step : Step s g fetched s' g') :
    Announced format (seen ++ s.deliveries fetched s') s' := by
  have setup := step.setup_eq
  cases step with
  | header stage =>
    exact (announced.keep _ rfl (by simp [VideoCall.configured?]) setup
      (.inr (by rw [stage]; rfl))).fetch rfl
  | packet stage =>
    have current := beginPacket_configured?
    exact (announced.keep _ (VideoSession.beginPacket_calls ..) (by simp [VideoCall.configured?])
      setup (.inr (by rw [current, stage]; rfl))).fetch (current ..)
  | configure stage goesOn =>
    refine .unfetched (announced.configure ?_)
    rcases goesOn with rfl | ⟨e, rfl⟩
    · exact .inl rfl
    · exact .inr rfl
  | work working goesOn uses =>
    refine .unfetched (announced.keep _ rfl (fun call made => (uses call made).2) setup ?_)
    rcases goesOn with next | ⟨output, rfl⟩ | ⟨ending, rfl⟩
    · exact .inr (by rw [working.configured?, next.configured?])
    · exact .inr (by rw [working.configured?]; rfl)
    · exact .inl rfl
  | skip stage uses =>
    exact .unfetched (announced.keep _ rfl (fun call made => (uses call made).2) setup
      (.inr (by rw [stage]; rfl)))
  | headerDone stage =>
    exact .unfetched (announced.keep [] (by simp) (by simp) setup
      (.inr (by rw [beginPacket_configured?, stage]; rfl)))
  | headerWaits stage | headerFails stage | packetWaits stage | packetEnds stage =>
    exact .unfetched (announced.keep [] (by simp) (by simp) setup (.inr (by rw [stage]; rfl)))
  | noEncoder stage made =>
    refine .unfetched (announced.keep _ rfl ?_ setup (.inl rfl))
    rcases made with rfl | ⟨name, rfl⟩ <;> simp [VideoCall.configured?]
  | encoder | noDisplay | display | tearDown =>
    exact .unfetched (announced.keep _ rfl (by simp [VideoCall.configured?, VideoCall.tearDown])
      setup (.inl rfl))
  | observe | measure | abandon | restart | smaller | markWaits | markEnds =>
    exact .unfetched (announced.keep [] (by simp) (by simp) setup (.inl rfl))
  | finish =>
    exact .unfetched (announced.keep [] (by simp) (by simp) setup (.inl (exit_configured? ..)))

theorem Announced.around (announced : Announced format seen s) (around : Around s g s' g') :
    Announced format seen s' := by
  cases around with
  | still | turn => exact announced
  | start idle => exact announced.keep [] (by simp) (by simp) rfl (.inl rfl)
  | drain | hangUp => exact ⟨announced.base, announced.told, announced.now⟩

end VideoOutline

end Screencast
