import Screencast.Proofs.Encoder.Creation
import Screencast.Proofs.Scheduling
import Screencast.Proofs.Video.Outline

/-!
Every step of a video session is one of those that its outline can take (`step_outline`). Each stage
has its lemma, by the choices that encoders and displays have there; which stages have which ways on
is said once (`advance_of_step`).
-/

namespace Screencast

namespace VideoSession

variable {σ : Type}

/-- What encoders, their reports and the stop signal decide is left out. -/
def outline (s : VideoSession σ) : VideoOutline :=
  { setup := s.setup, host := (), framer := s.framer, sink := s.sink, seen := 0
    stage := s.stage, calls := s.calls }

theorem framer_outline (s : VideoSession σ) : s.outline.framer = s.framer := rfl

theorem outline_beginPacket (s : VideoSession σ) (a : Attempt) (output : OutputBuffer)
    (data : Bytes) :
    (s.beginPacket a output data).outline = s.outline.beginPacket a output data := by
  unfold beginPacket
  rw [framer_outline]
  rcases s.framer.packet (output.info.unit data) with e | ⟨framer, _ | bytes⟩ <;> rfl

theorem outline_exit (s : VideoSession σ) (result : Except Error Unit) :
    (s.exit result).outline = s.outline.exit result := by
  unfold exit
  rw [framer_outline]
  rcases result with e | _
  · dsimp only
    split
    · rfl
    · rcases s.framer.disable true with ⟨framer, _ | bytes⟩ <;> rfl
  · rfl

open VideoOutline (Step)

variable {s : VideoSession σ} {g : DeviceGeometry}

theorem await_outline {pick : Nat} {d : Device} {a : Attempt} {next : VideoSession σ}
    (stage : s.stage = .await a) (h : s.await pick d a = some next) :
    Step s.outline g none next.outline g := by
  have working : s.outline.stage.Working a := by simp [outline, stage, VideoStage.Working]
  have branches := mem_of_firstReady h
  simp only [List.mem_cons, List.not_mem_nil, or_false] at branches
  rcases branches with stopped | failed | turned | output
  · unfold stopBranch at stopped
    split at stopped <;> cases stopped
    exact .silent working (.inr (.inr ⟨_, rfl⟩))
  · obtain ⟨e, -, rfl⟩ := Option.map_eq_some_iff.mp failed.symm
    exact .silent working (.inr (.inr ⟨_, rfl⟩))
  · unfold rotationBranch at turned
    split at turned <;> cases turned
    exact .silent working (.inr (.inr ⟨_, rfl⟩))
  · unfold outputBranch at output
    split at output <;> cases output
    · exact .silent working (.inr (.inl ⟨_, rfl⟩))
    · exact .silent working (.inr (.inr ⟨_, rfl⟩))

/-- Heard in the middle of a delivery, the stop signal ends the attempt. -/
theorem stopBranch_outline {a : Attempt} {next : VideoSession σ} (stage : s.stage.Delivering a)
    (h : s.stopBranch a = some next) : Step s.outline g none next.outline g := by
  unfold stopBranch at h
  split at h <;> cases h
  exact .abandon stage

theorem bind_outline {d : Device} {a : Attempt} {surface : Nat} {p : Projection}
    (stage : s.stage = .bind a surface p) :
    Step s.outline d.geometry none (s.bind d a surface p).1.outline
      (s.bind d a surface p).2.geometry := by
  have working : s.outline.stage.Working a := by simp [outline, stage, VideoStage.Working]
  unfold bind
  dsimp only [record]
  rcases d.platform.setSurface p with ⟨platform, e | _⟩
  · exact .call working (.inr ⟨_, rfl⟩) rfl rfl
  · exact .call working (.inl rfl) rfl rfl

/-- Of a write under way, either the stop signal comes or the write goes on. -/
theorem stop_or_sent {pick : Nat} {a : Attempt} {stalled : Bool}
    {sent : Option (VideoSession σ)} {next : VideoSession σ}
    (ready : firstReady pick [if stalled then s.stopBranch a else none, sent] = some next) :
    s.stopBranch a = some next ∨ sent = some next := by
  have branches := mem_of_firstReady ready
  simp only [List.mem_cons, List.not_mem_nil, or_false] at branches
  rcases branches with stopped | sent
  · split at stopped
    · exact .inl stopped.symm
    · cases stopped
  · exact .inr sent.symm

theorem sendHeader_outline {a : Attempt} {output : OutputBuffer} {data : Bytes} {t : Transfer}
    {next : VideoSession σ} (stage : s.stage = .sendHeader a output data t)
    (h : s.sendHeader? a output data t = some next) : Step s.outline g none next.outline g := by
  have sends : s.outline.stage = .sendHeader a output data t := stage
  unfold sendHeader? at h
  split at h
  · cases h
  · cases h
    rename_i written
    exact .headerWaits sends written
  · cases h
    rename_i written
    rw [outline_beginPacket]
    exact .headerDone sends written
  · cases h
    rename_i written
    exact .headerFails sends written

theorem sendPacket_outline {a : Attempt} {output : OutputBuffer} {t : Transfer}
    {next : VideoSession σ} (stage : s.stage = .sendPacket a output t)
    (h : s.sendPacket? a output t = some next) : Step s.outline g none next.outline g := by
  have sends : s.outline.stage = .sendPacket a output t := stage
  unfold sendPacket? at h
  split at h
  · cases h
  · cases h
    rename_i written
    exact .packetWaits sends written
  · cases h
    rename_i written
    exact .packetEnds sends written

theorem conclude_outline {d : Device} {size : Size} {ending : Except Error Ending}
    (stage : s.stage = .conclude size ending) :
    Step s.outline d.geometry none (s.conclude d size ending).1.outline
      (s.conclude d size ending).2.geometry := by
  have concludes : s.outline.stage = .conclude size ending := stage
  unfold conclude
  split
  · exact .restart concludes
  · rename_i ending final
    rw [outline_exit]
    exact .finish concludes (.done final)
  · split
    · rename_i enabled
      split
      · rename_i maxSize next
        exact .smaller concludes enabled next
      · rename_i last
        rw [outline_exit]
        exact .finish concludes (.exhausted enabled last)
    · rename_i disabled
      rw [outline_exit]
      exact .finish concludes (.failed fun enabled => absurd enabled disabled)
  · rename_i e other
    rw [outline_exit]
    exact .finish concludes (.failed fun _ reason same => other reason (by rw [same]))

theorem announce_outline {e : Error} {t : Transfer} {next : VideoSession σ}
    (stage : s.stage = .announce e t) (h : s.announce? e t = some next) :
    Step s.outline g none next.outline g := by
  have announces : s.outline.stage = .announce e t := stage
  unfold announce? at h
  split at h
  · cases h
  · cases h
    rename_i written
    exact .markWaits announces written
  · cases h
    rename_i written
    exact .markEnds announces written

variable [EncoderHost σ]

/-- The unit that the step to `next` fetched: a step of a delivery that makes no call has left the
output buffer unread. -/
def fetched? (s next : VideoSession σ) : Option Fetched :=
  match s.stage with
  | .deliver a output =>
    if next.calls = s.calls then none
    else match EncoderHost.readOutput s.host a.encoder output.index with
      | .ok data => some ⟨a, output.info.unit data⟩
      | .error _ => none
  | _ => none

theorem fetched?_of_calls_eq {next : VideoSession σ} (h : next.calls = s.calls) :
    s.fetched? next = none := by
  unfold fetched?
  split
  · rw [if_pos h]
  · rfl

theorem fetched?_of_not_deliver (h : ∀ a output, s.stage ≠ .deliver a output)
    (next : VideoSession σ) : s.fetched? next = none := by
  unfold fetched?
  split
  · rename_i a output stage
    exact absurd stage (h a output)
  · rfl

theorem openEncoder_outline {size : Size} (stage : s.stage = .openEncoder size) :
    Step s.outline g none (s.openEncoder size).outline g := by
  unfold openEncoder
  dsimp only [record]
  cases openEncoder_settled s.host s.setup.codec.mime s.setup.encoderName with
  | refused result calls final =>
    rw [result]
    refine .noEncoder stage ?_ final
    rcases calls with calls | ⟨name, calls⟩
    · exact .inl (by rw [calls]; rfl)
    · exact .inr ⟨name, by rw [calls]; rfl⟩
  | made result calls =>
    rw [result, calls]
    exact .encoder stage

theorem createDisplay_outline {d : Device} {encoder : Nat} {size : Size}
    (stage : s.stage = .createDisplay encoder size) :
    Step s.outline d.geometry none (s.createDisplay d encoder size).1.outline
      (s.createDisplay d encoder size).2.geometry := by
  unfold createDisplay
  dsimp only
  rcases d.platform.createDisplay with ⟨platform, e | display⟩
  · exact .noDisplay stage
  · exact .display stage

theorem configure_outline {a : Attempt} (stage : s.stage = .configure a) :
    Step s.outline g none (s.configure a).outline g := by
  unfold configure
  dsimp only [record]
  rcases EncoderHost.configure s.host a.encoder (s.baseFormat.withSize a.size) with ⟨host, e | _⟩
  · exact .configure stage (.inr ⟨_, rfl⟩)
  · exact .configure stage (.inl rfl)

theorem createSurface_outline {a : Attempt} (stage : s.stage = .createSurface a) :
    Step s.outline g none (s.createSurface a).outline g := by
  have working : s.outline.stage.Working a := by simp [outline, stage, VideoStage.Working]
  unfold createSurface
  dsimp only [record]
  rcases EncoderHost.surface s.host a.encoder with ⟨host, e | surface⟩
  · exact .call working (.inr ⟨_, rfl⟩) rfl rfl
  · exact .call working (.inl rfl) rfl rfl

theorem startEncoder_outline {a : Attempt} (stage : s.stage = .startEncoder a) :
    Step s.outline g none (s.startEncoder a).outline g := by
  have working : s.outline.stage.Working a := by simp [outline, stage, VideoStage.Working]
  unfold startEncoder
  dsimp only [record]
  rcases EncoderHost.start s.host a.encoder with ⟨host, e | _⟩
  · exact .call working (.inr ⟨_, rfl⟩) rfl rfl
  · exact .call working (.inl rfl) rfl rfl

/-- An empty buffer is left alone, and any other one is asked for its content. -/
theorem fetched?_deliver {a : Attempt} {output : OutputBuffer}
    (stage : s.stage = .deliver a output) :
    s.fetched? (s.deliver a output) =
      if output.info.size = 0 then none
      else match EncoderHost.readOutput s.host a.encoder output.index with
        | .ok data => some ⟨a, output.info.unit data⟩
        | .error _ => none := by
  by_cases empty : output.info.size = 0
  · have silent : (s.deliver a output).calls = s.calls := by simp [deliver, empty]
    rw [fetched?_of_calls_eq silent, if_pos empty]
  · have asked : (s.deliver a output).calls =
        s.calls ++ [.encoder (.readOutput a.encoder output.index)] := by
      unfold deliver
      rw [if_neg empty]
      dsimp only
      split
      · rfl
      · split
        · rfl
        · exact beginPacket_calls ..
    simp [fetched?, stage, asked, empty]

theorem deliver_outline {a : Attempt} {output : OutputBuffer}
    (stage : s.stage = .deliver a output) :
    Step s.outline g (s.fetched? (s.deliver a output)) (s.deliver a output).outline g := by
  have delivers : s.outline.stage = .deliver a output := stage
  rw [fetched?_deliver stage]
  unfold deliver
  by_cases empty : output.info.size = 0
  · rw [if_pos empty, if_pos empty]
    exact .unread delivers
  · rw [if_neg empty, if_neg empty]
    dsimp only [record]
    rcases EncoderHost.readOutput s.host a.encoder output.index with e | data
    · exact .skip delivers (by simp [VideoCall.Uses, VideoCall.configured?])
    · dsimp only
      rcases header : s.framer.videoHeader a.size with ⟨framer, _ | bytes⟩
      · dsimp only
        rw [outline_beginPacket]
        exact .packet delivers header
      · exact .header delivers header

theorem giveBack_outline {a : Attempt} {output : OutputBuffer} {written : Except Error Unit}
    (stage : s.stage = .giveBack a output written) :
    Step s.outline g none (s.giveBack a output written).outline g := by
  have working : s.outline.stage.Working a := by simp [outline, stage, VideoStage.Working]
  unfold giveBack
  dsimp only [record]
  rcases EncoderHost.returnOutput s.host a.encoder output.index with ⟨host, e | _⟩
  · exact .call working (.inr ⟨_, rfl⟩) rfl rfl
  · rcases written with e | _
    · exact .call working (.inr ⟨_, rfl⟩) rfl rfl
    · dsimp only
      split
      · exact .call working (.inr ⟨_, rfl⟩) rfl rfl
      · exact .call working (.inl rfl) rfl rfl

/-! ### Step by step -/

/-- What a step comes to in each stage. A buffer that is taken may be left behind for the stop
signal. -/
inductive Advance (s : VideoSession σ) (d : Device) : VideoSession σ × Device → Prop
  | observe (stage : s.stage = .observe) :
      Advance s d ({ s with seen := d.rotationVersion, stage := .measure }, d)
  | measure (stage : s.stage = .measure) :
      Advance s d ({ s with stage := .openEncoder d.layout.videoSize }, d)
  | openEncoder {size : Size} (stage : s.stage = .openEncoder size) :
      Advance s d (s.openEncoder size, d)
  | createDisplay {encoder : Nat} {size : Size} (stage : s.stage = .createDisplay encoder size) :
      Advance s d (s.createDisplay d encoder size)
  | configure {a : Attempt} (stage : s.stage = .configure a) : Advance s d (s.configure a, d)
  | createSurface {a : Attempt} (stage : s.stage = .createSurface a) :
      Advance s d (s.createSurface a, d)
  | project {a : Attempt} {surface : Nat} (stage : s.stage = .project a surface) :
      Advance s d ({ s with stage := .bind a surface (projection d) }, d)
  | bind {a : Attempt} {surface : Nat} {p : Projection} (stage : s.stage = .bind a surface p) :
      Advance s d (s.bind d a surface p)
  | startEncoder {a : Attempt} (stage : s.stage = .startEncoder a) :
      Advance s d (s.startEncoder a, d)
  | await {a : Attempt} {pick : Nat} {next : VideoSession σ} (stage : s.stage = .await a)
      (ready : s.await pick d a = some next) : Advance s d (next, d)
  | stop {a : Attempt} {next : VideoSession σ} (delivering : s.stage.Delivering a)
      (stopped : s.stopBranch a = some next) : Advance s d (next, d)
  | deliver {a : Attempt} {output : OutputBuffer} (stage : s.stage = .deliver a output) :
      Advance s d (s.deliver a output, d)
  | sendHeader {a : Attempt} {output : OutputBuffer} {data : Bytes} {t : Transfer}
      {next : VideoSession σ} (stage : s.stage = .sendHeader a output data t)
      (sent : s.sendHeader? a output data t = some next) : Advance s d (next, d)
  | sendPacket {a : Attempt} {output : OutputBuffer} {t : Transfer} {next : VideoSession σ}
      (stage : s.stage = .sendPacket a output t) (sent : s.sendPacket? a output t = some next) :
      Advance s d (next, d)
  | giveBack {a : Attempt} {output : OutputBuffer} {written : Except Error Unit}
      (stage : s.stage = .giveBack a output written) : Advance s d (s.giveBack a output written, d)
  | tearDown {a : Attempt} {ending : Except Error Ending} (stage : s.stage = .tearDown a ending) :
      Advance s d (s.tearDown d a ending)
  | conclude {size : Size} {ending : Except Error Ending}
      (stage : s.stage = .conclude size ending) : Advance s d (s.conclude d size ending)
  | announce {e : Error} {t : Transfer} {next : VideoSession σ} (stage : s.stage = .announce e t)
      (told : s.announce? e t = some next) : Advance s d (next, d)

theorem advance_of_step {pick : Nat} {d : Device} {after : VideoSession σ × Device}
    (h : s.step pick d = some after) : s.Advance d after := by
  unfold step at h
  cases stage : s.stage with simp only [stage, reduceCtorEq] at h
  | observe =>
    cases h
    exact .observe stage
  | measure =>
    cases h
    exact .measure stage
  | openEncoder size =>
    cases h
    exact .openEncoder stage
  | createDisplay encoder size =>
    cases h
    exact .createDisplay stage
  | configure a =>
    cases h
    exact .configure stage
  | createSurface a =>
    cases h
    exact .createSurface stage
  | project a surface =>
    cases h
    exact .project stage
  | bind a surface p =>
    cases h
    exact .bind stage
  | startEncoder a =>
    cases h
    exact .startEncoder stage
  | await a =>
    obtain ⟨next, ready, rfl⟩ := Option.map_eq_some_iff.mp h
    exact .await stage ready
  | deliver a output =>
    obtain ⟨next, ready, rfl⟩ := Option.map_eq_some_iff.mp h
    have branches := mem_of_firstReady ready
    simp only [List.mem_cons, List.not_mem_nil, or_false, Option.some.injEq] at branches
    rcases branches with stopped | rfl
    · exact .stop (by rw [stage]; rfl) stopped.symm
    · exact .deliver stage
  | sendHeader a output data t =>
    obtain ⟨next, ready, rfl⟩ := Option.map_eq_some_iff.mp h
    rcases stop_or_sent ready with stopped | sent
    · exact .stop (by rw [stage]; rfl) stopped
    · exact .sendHeader stage sent
  | sendPacket a output t =>
    obtain ⟨next, ready, rfl⟩ := Option.map_eq_some_iff.mp h
    rcases stop_or_sent ready with stopped | sent
    · exact .stop (by rw [stage]; rfl) stopped
    · exact .sendPacket stage sent
  | giveBack a output written =>
    cases h
    exact .giveBack stage
  | tearDown a ending =>
    cases h
    exact .tearDown stage
  | conclude size ending =>
    cases h
    exact .conclude stage
  | announce e t =>
    obtain ⟨next, told, rfl⟩ := Option.map_eq_some_iff.mp h
    exact .announce stage told

theorem fetched?_of_stop {a : Attempt} {next : VideoSession σ} (h : s.stopBranch a = some next) :
    s.fetched? next = none := by
  refine fetched?_of_calls_eq ?_
  unfold stopBranch at h
  split at h <;> cases h
  rfl

/-- Something is fetched only where a buffer is delivered. -/
theorem Advance.fetches {d : Device} {after : VideoSession σ × Device}
    (advance : s.Advance d after) :
    s.fetched? after.1 = none ∨
      ∃ a output, s.stage = .deliver a output ∧ after = (s.deliver a output, d) := by
  cases advance with
  | deliver stage => exact .inr ⟨_, _, stage, rfl⟩
  | stop delivering stopped => exact .inl (fetched?_of_stop stopped)
  | observe stage | measure stage | openEncoder stage | createDisplay stage | configure stage
  | createSurface stage | project stage | bind stage | startEncoder stage | await stage
  | sendHeader stage | sendPacket stage | giveBack stage | tearDown stage | conclude stage
  | announce stage => exact .inl (s.fetched?_of_not_deliver (by simp [stage]) _)

/-- Every step of a session is one of those that its outline can take. -/
theorem step_outline {pick : Nat} {d : Device} {next : VideoSession σ × Device}
    (h : s.step pick d = some next) :
    Step s.outline d.geometry (s.fetched? next.1) next.1.outline next.2.geometry := by
  have advance := advance_of_step h
  rcases advance.fetches with unread | ⟨a, output, stage, rfl⟩
  · rw [unread]
    cases advance with
    | observe stage => exact .observe stage
    | measure stage => exact .measure stage
    | openEncoder stage => exact openEncoder_outline stage
    | createDisplay stage => exact createDisplay_outline stage
    | configure stage => exact configure_outline stage
    | createSurface stage => exact createSurface_outline stage
    | @project a surface stage =>
      exact .silent (a := a) (by simp [outline, stage, VideoStage.Working]) (.inl rfl)
    | bind stage => exact bind_outline stage
    | startEncoder stage => exact startEncoder_outline stage
    | await stage ready => exact await_outline stage ready
    | stop delivering stopped => exact stopBranch_outline delivering stopped
    | deliver stage =>
      have delivers := deliver_outline (g := d.geometry) stage
      rwa [unread] at delivers
    | sendHeader stage sent => exact sendHeader_outline stage sent
    | sendPacket stage sent => exact sendPacket_outline stage sent
    | giveBack stage => exact giveBack_outline stage
    | tearDown stage => exact .tearDown stage
    | conclude stage => exact conclude_outline stage
    | announce stage told => exact announce_outline stage told
  · exact deliver_outline stage

end VideoSession

end Screencast
