import Screencast.Proofs.Audio.Lending

/-!
What becomes of output buffers in a run of an audio session (`lends_of_run`), and which of the calls
give them back (`returned_of_lendings`). A buffer is left behind where another of the branches ends
the encoding in the middle of its writing (`ended_of_abandoned`).
-/

namespace Screencast

namespace AudioSession

variable {σ γ : Type} [EncoderHost σ] {s next : AudioSession σ γ} {encoder : Nat}
  {input : InputStage} {output : OutputBuffer} {t : Transfer}

/-- A write goes on, or the buffer is given back. -/
theorem writeBuffer_after (h : s.writeBuffer? encoder input output t = some next) :
    next.stage.loan? = some ⟨encoder, output⟩ ∨
      next.calls = s.calls ++ [.encoder (.returnOutput encoder output.index)] := by
  unfold writeBuffer? at h
  split at h
  · cases h
  · cases h
    exact .inl rfl
  · rename_i sink result written
    cases h
    obtain ⟨next, after, kept, given⟩ :=
      giveBack_outline { s with sink } encoder input output result
    exact .inr (congrArg AudioSession.calls given)

variable [PcmSource γ]

/-- What a step from `s` to `next` does with output buffers. -/
def lendings (s next : AudioSession σ γ) : List Lending :=
  AudioOutline.lendings (EncoderHost.readOutput s.host) s.outline next.outline

/-- What a session learns of a buffer is its content. -/
theorem asks_of_learned (s next : AudioSession σ γ) :
    AudioOutline.Asks (EncoderHost.readOutput s.host) s.outline (s.learned next) := by
  intro encoder input output stage buffer data member
  have encoding : s.stage = .encoding encoder input output := stage
  simp only [learned, encoding, List.mem_append] at member
  rcases member with inputs | outputs
  · split at inputs
    · split at inputs
      · simp at inputs
      · cases inputs
    · cases inputs
  · split at outputs
    · split at outputs
      · obtain ⟨rfl, rfl⟩ : buffer = _ ∧ data = _ := by simpa using outputs
        rfl
      · cases outputs
    · cases outputs

/-! ### What is left behind -/

/-- The input side goes on with its buffers, or ends the encoding. -/
theorem inputBranch_after {output : OutputStage}
    (h : s.inputBranch encoder input output = some next) :
    (∃ input, next.stage = .encoding encoder input output) ∨
      ∃ result, next.stage = .tearDown (some encoder) result := by
  cases input with
  | idle =>
    simp only [inputBranch] at h
    split at h
    · cases h
    · cases h
      exact .inr ⟨_, rfl⟩
    · cases h
      unfold beginFill
      split
      · exact .inr ⟨_, rfl⟩
      · exact .inl ⟨_, rfl⟩
  | reading index capacity =>
    obtain ⟨⟨source, result⟩, -, rfl⟩ := Option.map_eq_some_iff.mp h
    rcases result with e | _ | ⟨byte, data⟩
    · exact .inr ⟨_, rfl⟩
    · exact .inr ⟨_, rfl⟩
    · obtain ⟨next, goesOn, -, queued⟩ := queue_outline
        ({ s with source }.record [.capture (.read capacity (.ok (byte :: data)))]) encoder index
        (byte :: data) output
      have stage := congrArg AudioSession.stage queued
      rcases goesOn with rfl | ⟨e, rfl⟩
      · exact .inl ⟨_, stage⟩
      · exact .inr ⟨_, stage⟩

/-- A buffer is left behind only in the middle of its writing, when the stop signal, a failure of
the encoder or the input side ends the encoding. -/
theorem ended_of_abandoned {pick : Nat} {left : Bytes} (h : s.step pick = some next)
    (gone : .abandoned left ∈ s.lendings next) :
    ∃ encoder input output t, s.stage = .encoding encoder input (.writing output t) ∧
      (∃ result, next.stage = .tearDown (some encoder) result) ∧
      (s.stopping = true ∨ (∃ e, s.listening.failure? = some e) ∨
        s.inputBranch encoder input (.writing output t) = some next) := by
  obtain ⟨held, free, none⟩ := Lending.of_abandoned gone
  obtain ⟨encoder, input, output, t, stage⟩ :
      ∃ encoder input output t, s.stage = .encoding encoder input (.writing output t) := by
    have loan : s.stage.loan?.isSome = true := held
    unfold AudioStage.loan? at loan
    split at loan
    · exact ⟨_, _, _, _, by assumption⟩
    · cases loan
  refine ⟨encoder, input, output, t, stage, ?_⟩
  cases advance_of_step h with
  | finish other stopping =>
    cases stage.symm.trans other
    exact ⟨⟨_, rfl⟩, .inl stopping⟩
  | fail other failed =>
    cases stage.symm.trans other
    exact ⟨⟨_, rfl⟩, .inr (.inl ⟨_, failed⟩)⟩
  | input other ready =>
    cases stage.symm.trans other
    rcases inputBranch_after ready with ⟨input, kept⟩ | finished
    · rw [show next.outline.stage = next.stage from rfl, kept] at free
      cases free
    · exact ⟨finished, .inr (.inr ready)⟩
  | output other ready =>
    cases stage.symm.trans other
    rcases writeBuffer_after ready with kept | made
    · cases free.symm.trans kept
    · rw [@AudioOutline.madeCalls_eq s.outline next.outline _ made] at none
      cases none
  | stopRecording other => rcases other with other | ⟨t, other⟩ <;> cases stage.symm.trans other
  | check other | announce other | openEncoder other | configure other | startCapture other
  | startEncoder other | recordHeader other | recordRead other | recordWrite other | tearDown other
  | stopCapture other => cases stage.symm.trans other

end AudioSession

/-! ### Whole runs -/

namespace AudioWorld

variable {σ γ : Type} [EncoderHost σ] [PcmSource γ]

/-- What a move does with output buffers. -/
def lent (w : AudioWorld σ γ) : AudioMove σ γ → List Lending
  | .go pick =>
    match w.session.step pick with
    | some next => w.session.lendings next
    | none => []
  | _ => []

def lendings (w : AudioWorld σ γ) : List (AudioMove σ γ) → List Lending
  | [] => []
  | move :: moves => w.lent move ++ (w.apply move).lendings moves

variable {w : AudioWorld σ γ} {pick : Nat} {next : AudioSession σ γ}

theorem apply_of_stuck (stuck : w.session.step pick = none) : w.apply (.go pick) = w := by
  simp only [apply, stuck]

theorem lent_of_stuck (stuck : w.session.step pick = none) : w.lent (.go pick) = [] := by
  simp only [lent, stuck]

theorem apply_of_step (stepped : w.session.step pick = some next) :
    (w.apply (.go pick)).session = next := by
  simp only [apply, stepped]

theorem lent_of_step (stepped : w.session.step pick = some next) :
    w.lent (.go pick) = w.session.lendings next := by
  simp only [lent, stepped]

theorem lends_of_apply {entries : List Lending} (lends : w.session.outline.Lends entries)
    (move : AudioMove σ γ) : (w.apply move).session.outline.Lends (entries ++ w.lent move) := by
  have still {after : AudioSession σ γ} (stage : after.stage = w.session.stage)
      (sink : after.sink.accepted = w.session.sink.accepted) :
      after.outline.Lends (entries ++ []) := by
    obtain ⟨last, behind, lends⟩ := lends
    rw [List.append_nil]
    refine ⟨last, behind, ?_⟩
    change after.stage.Lends after.sink last
    rw [stage]
    exact lends.onSink sink
  cases move with
  | go pick =>
    cases stepped : w.session.step pick with
    | none =>
      rw [lent_of_stuck stepped, apply_of_stuck stepped, List.append_nil]
      exact lends
    | some next =>
      rw [lent_of_step stepped, apply_of_step stepped]
      exact (AudioSession.step_outline stepped).lends
        (AudioSession.asks_of_learned w.session next) lends
  | start =>
    change w.session.start.outline.Lends (entries ++ [])
    unfold AudioSession.start
    split
    · rename_i idle
      obtain ⟨last, behind, lends⟩ := lends
      rw [List.append_nil]
      have before : (AudioStage.idle).Lends w.session.sink last := idle ▸ lends
      exact ⟨last, behind, before.pass rfl rfl nofun⟩
    · exact still rfl rfl
  | stop | encoders | sound | input | output | fail | leave | drain | hangUp => exact still rfl rfl

theorem lends_of_run {entries : List Lending} (lends : w.session.outline.Lends entries)
    (moves : List (AudioMove σ γ)) :
    (w.run moves).session.outline.Lends (entries ++ w.lendings moves) := by
  induction moves generalizing w entries with
  | nil => rwa [lendings, List.append_nil]
  | cons move moves ih =>
    rw [lendings, ← List.append_assoc]
    exact ih (lends_of_apply lends move)

/-- What is given back is what the calls of the session give back. -/
theorem returned_of_apply (w : AudioWorld σ γ) (move : AudioMove σ γ) :
    (w.apply move).session.calls.filterMap (·.returned?) =
      w.session.calls.filterMap (·.returned?) ++ (w.lent move).filterMap (·.returned?) := by
  cases move with
  | go pick =>
    cases stepped : w.session.step pick with
    | none =>
      rw [lent_of_stuck stepped, apply_of_stuck stepped, List.filterMap_nil, List.append_nil]
    | some next =>
      obtain ⟨calls, performs⟩ := AudioSession.step_performs stepped
      have grown : next.calls = w.session.calls ++ calls := performs.calls
      have same : AudioOutline.madeCalls w.session.outline next.outline =
          calls.filterMap (·.encoder?) := AudioOutline.madeCalls_eq grown
      rw [lent_of_step stepped, apply_of_step stepped, AudioSession.lendings,
        AudioOutline.lendings, Lending.returned_ofStep, same, AudioCall.filterMap_returned, grown,
        List.filterMap_append]
  | start =>
    change w.session.start.calls.filterMap (·.returned?) = _
    unfold AudioSession.start
    split
    · exact (List.append_nil _).symm
    · exact (List.append_nil _).symm
  | stop | encoders | sound | input | output | fail | leave | drain | hangUp =>
    exact (List.append_nil _).symm

theorem returned_of_lendings (w : AudioWorld σ γ) (moves : List (AudioMove σ γ)) :
    (w.run moves).session.calls.filterMap (·.returned?) =
      w.session.calls.filterMap (·.returned?) ++ (w.lendings moves).filterMap (·.returned?) := by
  induction moves generalizing w with
  | nil => exact (List.append_nil _).symm
  | cons move moves ih =>
    rw [lendings, List.filterMap_append, ← List.append_assoc, ← returned_of_apply]
    exact ih _

end AudioWorld

end Screencast
