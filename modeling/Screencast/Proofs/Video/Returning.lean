import Screencast.Proofs.Video.Lending

/-!
What becomes of output buffers in a run of a video session (`lends_of_run`), and which of the calls
give them back (`returned_of_lendings`). A buffer is left behind only where the stop signal is heard
in the middle of its delivery (`stopping_of_abandoned`).
-/

namespace Screencast

namespace VideoSession

/-! ### What is left behind -/

variable {σ : Type} {s next : VideoSession σ} {d : Device} {a : Attempt}

theorem deliver_loan [EncoderHost σ] (s : VideoSession σ) (a : Attempt) (output : OutputBuffer) :
    (s.deliver a output).stage.loan? = some ⟨a.encoder, output⟩ := by
  unfold deliver
  dsimp only
  split
  · rfl
  · split
    · rfl
    · split
      · rfl
      · exact beginPacket_loan ..

theorem sendHeader_loan {output : OutputBuffer} {data : Bytes} {t : Transfer}
    (h : s.sendHeader? a output data t = some next) :
    next.stage.loan? = some ⟨a.encoder, output⟩ := by
  unfold sendHeader? at h
  split at h
  · cases h
  · cases h
    rfl
  · cases h
    exact beginPacket_loan ..
  · cases h
    rfl

theorem sendPacket_loan {output : OutputBuffer} {t : Transfer}
    (h : s.sendPacket? a output t = some next) :
    next.stage.loan? = some ⟨a.encoder, output⟩ := by
  unfold sendPacket? at h
  split at h
  · cases h
  · cases h
    rfl
  · cases h
    rfl

theorem stopped_of_stopBranch (h : s.stopBranch a = some next) :
    s.stopping = true ∧ next.stage = .tearDown a (.ok .stopped) := by
  unfold stopBranch at h
  split at h <;> cases h
  exact ⟨by assumption, rfl⟩

variable [EncoderHost σ]

/-- A buffer is left behind only for the stop signal, which ends the session. -/
theorem stopping_of_abandoned {pick : Nat} {after : VideoSession σ × Device} {left : Bytes}
    (h : s.step pick d = some after) (gone : .abandoned left ∈ s.lendings after.1) :
    s.stopping = true ∧ ∃ a, after.1.stage = .tearDown a (.ok .stopped) := by
  obtain ⟨held, free, none⟩ := Lending.of_abandoned gone
  cases advance_of_step h with
  | @stop a next delivering stopped =>
    obtain ⟨stopping, ending⟩ := stopped_of_stopBranch stopped
    exact ⟨stopping, a, ending⟩
  | deliver => cases free.symm.trans (s.deliver_loan _ _)
  | sendHeader stage sent => cases free.symm.trans (sendHeader_loan sent)
  | sendPacket stage sent => cases free.symm.trans (sendPacket_loan sent)
  | @giveBack a output written =>
    rw [madeCalls_eq (s.giveBack_after a output written).1] at none
    cases none
  | observe stage | measure stage | openEncoder stage | createDisplay stage | configure stage
  | createSurface stage | project stage | bind stage | startEncoder stage | await stage
  | tearDown stage | conclude stage | announce stage =>
    rw [stage] at held
    cases held

end VideoSession

/-! ### Whole runs -/

namespace VideoWorld

variable {σ : Type} [EncoderHost σ]

/-- What a move does with output buffers. -/
def lent (w : VideoWorld σ) : VideoMove σ → List Lending
  | .go pick =>
    match w.next? pick with
    | some after => w.session.lendings after.session
    | none => []
  | _ => []

def lendings (w : VideoWorld σ) : List (VideoMove σ) → List Lending
  | [] => []
  | move :: moves => w.lent move ++ (w.apply move).lendings moves

variable {w : VideoWorld σ}

theorem lends_of_apply {entries : List Lending} (lends : w.session.Lends entries)
    (move : VideoMove σ) : (w.apply move).session.Lends (entries ++ w.lent move) := by
  have still {after : VideoSession σ} (stage : after.stage = w.session.stage)
      (sink : after.sink.accepted = w.session.sink.accepted) : after.Lends (entries ++ []) := by
    obtain ⟨last, behind, lends⟩ := lends
    rw [List.append_nil]
    refine ⟨last, behind, ?_⟩
    rw [stage]
    exact lends.onSink sink
  cases move with
  | go pick =>
    cases next : w.next? pick with
    | none => simpa [apply, lent, next] using lends
    | some after =>
      obtain ⟨went, stepped, rfl⟩ := Option.map_eq_some_iff.mp next
      simpa [apply, lent, next] using VideoSession.step_lends lends stepped
  | start =>
    change w.session.start.Lends (entries ++ [])
    unfold VideoSession.start
    split
    · rename_i idle
      obtain ⟨last, behind, lends⟩ := lends
      rw [List.append_nil]
      rw [idle] at lends
      exact ⟨last, behind, lends.pass rfl rfl False.elim⟩
    · exact still rfl rfl
  | stop | encoders | report | drain | hangUp | turn | publish | platform => exact still rfl rfl

theorem lends_of_run {entries : List Lending} (lends : w.session.Lends entries)
    (moves : List (VideoMove σ)) :
    (w.run moves).session.Lends (entries ++ w.lendings moves) := by
  induction moves generalizing w entries with
  | nil => rwa [lendings, List.append_nil]
  | cons move moves ih =>
    rw [lendings, ← List.append_assoc]
    exact ih (lends_of_apply lends move)

/-- What is given back is what the calls of the session give back. -/
theorem returned_of_apply (w : VideoWorld σ) (move : VideoMove σ) :
    (w.apply move).session.calls.filterMap (·.returned?) =
      w.session.calls.filterMap (·.returned?) ++ (w.lent move).filterMap (·.returned?) := by
  cases move with
  | go pick =>
    cases next : w.next? pick with
    | none => simp [apply, lent, next]
    | some after =>
      obtain ⟨went, stepped, rfl⟩ := Option.map_eq_some_iff.mp next
      obtain ⟨calls, performs⟩ := VideoSession.step_performs stepped
      have grown : went.1.calls = w.session.calls ++ calls := performs.calls
      have same : w.session.madeCalls went.1 = calls.filterMap (·.encoder?) :=
        VideoSession.madeCalls_eq grown
      simp only [apply, lent, next, Option.getD_some, VideoSession.lendings,
        Lending.returned_ofStep, same, VideoCall.filterMap_returned, grown, List.filterMap_append]
  | start =>
    change w.session.start.calls.filterMap (·.returned?) = _
    unfold VideoSession.start
    split
    · exact (List.append_nil _).symm
    · exact (List.append_nil _).symm
  | stop | encoders | report | drain | hangUp | turn | publish | platform =>
    exact (List.append_nil _).symm

theorem returned_of_lendings (w : VideoWorld σ) (moves : List (VideoMove σ)) :
    (w.run moves).session.calls.filterMap (·.returned?) =
      w.session.calls.filterMap (·.returned?) ++ (w.lendings moves).filterMap (·.returned?) := by
  induction moves generalizing w with
  | nil => exact (List.append_nil _).symm
  | cons move moves ih =>
    rw [lendings, List.filterMap_append, ← List.append_assoc, ← returned_of_apply]
    exact ih _

end VideoWorld

end Screencast
