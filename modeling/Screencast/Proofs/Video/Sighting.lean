import Screencast.Proofs.Video.Refinement

/-!
What a video session has seen of the geometry, and when. An attempt reads the size of the video and
later the projection, and commits encoder and display to them (`Phase`). `Sighting` lists what a
step can do to that, and every step is one of these (`step_sighting`).
-/

namespace Screencast

/-- The encoder that a call configures, and with what. -/
def VideoCall.formatted? : VideoCall → Option (Nat × EncoderFormat)
  | .encoder (.configure e format) => some (e, format)
  | _ => none

/-- The display that a call binds, and to which projection. -/
def VideoCall.bound? : VideoCall → Option (Nat × Projection)
  | .display (.setSurface d _ p) => some (d, p)
  | _ => none

/-- How much of the geometry an attempt has read and committed itself to. -/
inductive Phase where
  /-- Nothing, or not any more. -/
  | apart
  /-- A size was read. -/
  | measured (size : Size)
  /-- The encoder was configured with the size. -/
  | configured (a : Attempt)
  /-- The projection was read. -/
  | projected (a : Attempt) (p : Projection)
  /-- The display was bound to the projection. -/
  | bound (a : Attempt)

def VideoStage.phase : VideoStage → Phase
  | .openEncoder size | .createDisplay _ size => .measured size
  | .configure a => .measured a.size
  | .createSurface a | .project a _ => .configured a
  | .bind a _ p => .projected a p
  | .startEncoder a | .await a | .deliver a _ | .sendHeader a _ _ _ | .sendPacket a _ _
  | .giveBack a _ _ => .bound a
  | .idle | .observe | .measure | .tearDown _ _ | .conclude _ _ | .announce _ _ | .ended _ =>
    .apart

/-- The geometry is the same, and so is what was published of it. -/
structure Device.SameView (d d' : Device) : Prop where
  geometry : d'.geometry = d.geometry
  layerStack : d'.layerStack = d.layerStack
  rotationVersion : d'.rotationVersion = d.rotationVersion

namespace Device.SameView

variable {d d' : Device}

theorem rfl : d.SameView d := ⟨Eq.refl _, Eq.refl _, Eq.refl _⟩

theorem layout (view : d.SameView d') : d'.layout = d.layout := by
  rw [Device.layout, Device.layout, view.geometry]

theorem projection (view : d.SameView d') :
    VideoSession.projection d' = VideoSession.projection d := by
  rw [VideoSession.projection, VideoSession.projection, view.layout, view.layerStack]

end Device.SameView

namespace VideoSession

variable {σ : Type}

/-- What a step does to what was seen of the geometry. -/
inductive Sighting (s : VideoSession σ) (d : Device) (s' : VideoSession σ) (d' : Device) : Prop
  /-- The attempt goes on, and neither configures an encoder nor binds a display. -/
  | onward {calls : List VideoCall} (view : d.SameView d') (seen : s'.seen = s.seen)
      (made : s'.calls = s.calls ++ calls)
      (plain : ∀ call ∈ calls, call.formatted? = none ∧ call.bound? = none)
      (phase : s'.stage.phase = s.stage.phase)
  | measure (view : d.SameView d') (seen : s'.seen = s.seen)
      (phase : s'.stage.phase = .measured d.layout.videoSize)
  | configure {a : Attempt} (view : d.SameView d') (seen : s'.seen = s.seen)
      (made : s'.calls =
        s.calls ++ [.encoder (.configure a.encoder (s.baseFormat.withSize a.size))])
      (before : s.stage.phase = .measured a.size) (phase : s'.stage.phase = .configured a)
  | project {a : Attempt} (view : d.SameView d') (seen : s'.seen = s.seen)
      (made : s'.calls = s.calls) (before : s.stage.phase = .configured a)
      (phase : s'.stage.phase = .projected a (projection d))
  | bind {a : Attempt} {surface : Nat} {p : Projection} (view : d.SameView d')
      (seen : s'.seen = s.seen)
      (made : s'.calls = s.calls ++ [.display (.setSurface a.display surface p)])
      (before : s.stage.phase = .projected a p) (phase : s'.stage.phase = .bound a)
  /-- The attempt is over, or there was none. -/
  | leave (version : d'.rotationVersion = d.rotationVersion)
      (seen : s'.seen = s.seen ∨ s'.seen = d.rotationVersion) (phase : s'.stage.phase = .apart)

namespace Sighting

variable {s s' : VideoSession σ} {d d' : Device}

/-- Nothing is published by a step. -/
theorem version_eq (sighting : Sighting s d s' d') : d'.rotationVersion = d.rotationVersion := by
  cases sighting with
  | onward view | measure view | configure view | project view | bind view =>
    exact view.rotationVersion
  | leave version => exact version

theorem seen_eq (sighting : Sighting s d s' d') :
    s'.seen = s.seen ∨ s'.seen = d.rotationVersion := by
  cases sighting with
  | onward _ seen | measure _ seen | configure _ seen | project _ seen | bind _ seen =>
    exact .inl seen
  | leave _ seen => exact seen

/-- A step that only another stage and further calls come of. -/
theorem within {calls : List VideoCall} (seen : s'.seen = s.seen)
    (made : s'.calls = s.calls ++ calls)
    (plain : ∀ call ∈ calls, call.formatted? = none ∧ call.bound? = none)
    (phase : s'.stage.phase = s.stage.phase) : Sighting s d s' d :=
  .onward .rfl seen made plain phase

theorem silent (seen : s'.seen = s.seen) (made : s'.calls = s.calls)
    (phase : s'.stage.phase = s.stage.phase) : Sighting s d s' d :=
  .onward .rfl seen (made.trans (List.append_nil _).symm) (by simp) phase

/-- The attempt breaks off. -/
theorem off (seen : s'.seen = s.seen) (phase : s'.stage.phase = .apart) : Sighting s d s' d :=
  .leave rfl (.inl seen) phase

end Sighting

variable {s next : VideoSession σ} {d : Device} {a : Attempt}

/-- A packet that is begun stays in its attempt. -/
theorem beginPacket_phase (s : VideoSession σ) (a : Attempt) (output : OutputBuffer)
    (data : Bytes) :
    (s.beginPacket a output data).seen = s.seen ∧
      (s.beginPacket a output data).stage.phase = .bound a := by
  obtain ⟨framer, next, begun, ⟨result, rfl⟩ | ⟨t, rfl⟩⟩ := s.beginPacket_eq a output data <;>
    rw [begun] <;> exact ⟨rfl, rfl⟩

theorem exit_phase (s : VideoSession σ) (result : Except Error Unit) :
    (s.exit result).seen = s.seen ∧ (s.exit result).stage.phase = .apart := by
  obtain ⟨framer, next, exits, rfl | ⟨e, t, rfl, rfl⟩⟩ := s.exit_eq result <;> rw [exits] <;>
    exact ⟨rfl, rfl⟩

theorem stopBranch_sighting (h : s.stopBranch a = some next) : Sighting s d next d := by
  unfold stopBranch at h
  split at h <;> cases h
  exact .off rfl rfl

theorem await_sighting {pick : Nat} (stage : s.stage = .await a)
    (h : s.await pick d a = some next) : Sighting s d next d := by
  have branches := mem_of_firstReady h
  simp only [List.mem_cons, List.not_mem_nil, or_false] at branches
  rcases branches with stopped | failed | turned | output
  · exact stopBranch_sighting stopped.symm
  · obtain ⟨e, -, rfl⟩ := Option.map_eq_some_iff.mp failed.symm
    exact .off rfl rfl
  · unfold rotationBranch at turned
    split at turned <;> cases turned
    exact .leave rfl (.inr rfl) rfl
  · unfold outputBranch at output
    split at output <;> cases output
    · exact .silent rfl rfl (by rw [stage]; rfl)
    · exact .off rfl rfl

theorem sendHeader_sighting {output : OutputBuffer} {data : Bytes} {t : Transfer}
    (stage : s.stage = .sendHeader a output data t)
    (h : s.sendHeader? a output data t = some next) : Sighting s d next d := by
  unfold sendHeader? at h
  split at h
  · cases h
  · cases h
    exact .silent rfl rfl (by rw [stage]; rfl)
  · rename_i sink written
    cases h
    obtain ⟨seen, phase⟩ := beginPacket_phase { s with sink } a output data
    exact .silent seen (beginPacket_calls ..) (phase.trans (by rw [stage]; rfl))
  · cases h
    exact .silent rfl rfl (by rw [stage]; rfl)

theorem sendPacket_sighting {output : OutputBuffer} {t : Transfer}
    (stage : s.stage = .sendPacket a output t) (h : s.sendPacket? a output t = some next) :
    Sighting s d next d := by
  unfold sendPacket? at h
  split at h
  · cases h
  · cases h
    exact .silent rfl rfl (by rw [stage]; rfl)
  · cases h
    exact .silent rfl rfl (by rw [stage]; rfl)

theorem announce_sighting {e : Error} {t : Transfer} (h : s.announce? e t = some next) :
    Sighting s d next d := by
  unfold announce? at h
  split at h
  · cases h
  · cases h
    exact .off rfl rfl
  · cases h
    exact .off rfl rfl

theorem conclude_sighting (size : Size) (ending : Except Error Ending) :
    Sighting s d (s.conclude d size ending).1 (s.conclude d size ending).2 := by
  have exits (result : Except Error Unit) :
      Sighting s d (s.exit result, d).1 (s.exit result, d).2 := by
    obtain ⟨seen, phase⟩ := s.exit_phase result
    exact .off seen phase
  unfold conclude
  split
  · exact .off rfl rfl
  · exact exits _
  · split
    · split
      -- a smaller size is tried: the geometry changes, and nobody relies on it
      · exact .leave rfl (.inl rfl) rfl
      · exact exits _
    · exact exits _
  · exact exits _

theorem bind_sighting {surface : Nat} {p : Projection} (stage : s.stage = .bind a surface p) :
    Sighting s d (s.bind d a surface p).1 (s.bind d a surface p).2 := by
  unfold bind
  dsimp only [record]
  rcases d.platform.setSurface p with ⟨platform, e | _⟩
  · exact .leave rfl (.inl rfl) rfl
  · exact .bind ⟨rfl, rfl, rfl⟩ rfl rfl (by rw [stage]; rfl) rfl

variable [EncoderHost σ]

theorem openEncoder_sighting {size : Size} (stage : s.stage = .openEncoder size) :
    Sighting s d (s.openEncoder size) d := by
  unfold openEncoder
  dsimp only [record]
  cases openEncoder_settled s.host s.setup.codec.mime s.setup.encoderName with
  | refused result calls final =>
    rw [result]
    exact .off rfl rfl
  | made result calls =>
    rw [result, calls]
    refine .within rfl rfl ?_ (by rw [stage]; rfl)
    simp [VideoCall.formatted?, VideoCall.bound?]

theorem createDisplay_sighting {encoder : Nat} {size : Size}
    (stage : s.stage = .createDisplay encoder size) :
    Sighting s d (s.createDisplay d encoder size).1 (s.createDisplay d encoder size).2 := by
  unfold createDisplay
  dsimp only
  rcases d.platform.createDisplay with ⟨platform, e | display⟩
  · exact .leave rfl (.inl rfl) rfl
  · refine .onward ⟨rfl, rfl, rfl⟩ rfl rfl ?_ (by rw [stage]; rfl)
    simp [VideoCall.formatted?, VideoCall.bound?]

theorem configure_sighting (stage : s.stage = .configure a) :
    Sighting s d (s.configure a) d := by
  unfold configure
  dsimp only [record]
  rcases EncoderHost.configure s.host a.encoder (s.baseFormat.withSize a.size) with ⟨host, e | _⟩
  · exact .off rfl rfl
  · exact .configure .rfl rfl rfl (by rw [stage]; rfl) rfl

theorem createSurface_sighting (stage : s.stage = .createSurface a) :
    Sighting s d (s.createSurface a) d := by
  unfold createSurface
  dsimp only [record]
  rcases EncoderHost.surface s.host a.encoder with ⟨host, e | surface⟩
  · exact .off rfl rfl
  · refine .within rfl rfl ?_ (by rw [stage]; rfl)
    simp [VideoCall.formatted?, VideoCall.bound?]

theorem startEncoder_sighting (stage : s.stage = .startEncoder a) :
    Sighting s d (s.startEncoder a) d := by
  unfold startEncoder
  dsimp only [record]
  rcases EncoderHost.start s.host a.encoder with ⟨host, e | _⟩
  · exact .off rfl rfl
  · refine .within rfl rfl ?_ (by rw [stage]; rfl)
    simp [VideoCall.formatted?, VideoCall.bound?]

theorem deliver_sighting {output : OutputBuffer} (stage : s.stage = .deliver a output) :
    Sighting s d (s.deliver a output) d := by
  have phase : s.stage.phase = .bound a := by rw [stage]; rfl
  have plain : ∀ call ∈ [VideoCall.encoder (.readOutput a.encoder output.index)],
      call.formatted? = none ∧ call.bound? = none := by
    simp [VideoCall.formatted?, VideoCall.bound?]
  unfold deliver
  split
  · exact .silent rfl rfl phase.symm
  · dsimp only [record]
    rcases EncoderHost.readOutput s.host a.encoder output.index with e | data
    · exact .within rfl rfl plain phase.symm
    · dsimp only
      rcases s.framer.videoHeader a.size with ⟨framer, _ | bytes⟩
      · obtain ⟨seen, begun⟩ := beginPacket_phase
          { s.record [.encoder (.readOutput a.encoder output.index)] with framer } a output data
        exact .within seen (beginPacket_calls ..) plain (begun.trans phase.symm)
      · exact .within rfl rfl plain phase.symm

theorem giveBack_sighting {output : OutputBuffer} {written : Except Error Unit}
    (stage : s.stage = .giveBack a output written) :
    Sighting s d (s.giveBack a output written) d := by
  unfold giveBack
  dsimp only [record]
  rcases EncoderHost.returnOutput s.host a.encoder output.index with ⟨host, e | _⟩
  · exact .off rfl rfl
  · rcases written with e | _
    · exact .off rfl rfl
    · dsimp only
      split
      · exact .off rfl rfl
      · refine .within rfl rfl ?_ (by rw [stage]; rfl)
        simp [VideoCall.formatted?, VideoCall.bound?]

theorem step_sighting {pick : Nat} {next : VideoSession σ × Device}
    (h : s.step pick d = some next) : Sighting s d next.1 next.2 := by
  cases advance_of_step h with
  | observe stage => exact .leave rfl (.inr rfl) rfl
  | measure stage => exact .measure .rfl rfl rfl
  | openEncoder stage => exact openEncoder_sighting stage
  | createDisplay stage => exact createDisplay_sighting stage
  | configure stage => exact configure_sighting stage
  | createSurface stage => exact createSurface_sighting stage
  | @project a surface stage => exact .project (a := a) .rfl rfl rfl (by rw [stage]; rfl) rfl
  | bind stage => exact bind_sighting stage
  | startEncoder stage => exact startEncoder_sighting stage
  | await stage ready => exact await_sighting stage ready
  | stop delivering stopped => exact stopBranch_sighting stopped
  | deliver stage => exact deliver_sighting stage
  | sendHeader stage sent => exact sendHeader_sighting stage sent
  | sendPacket stage sent => exact sendPacket_sighting stage sent
  | giveBack stage => exact giveBack_sighting stage
  | tearDown stage => exact .leave rfl (.inl rfl) rfl
  | @conclude size ending stage => exact conclude_sighting size ending
  | announce stage told => exact announce_sighting told

end VideoSession

end Screencast
