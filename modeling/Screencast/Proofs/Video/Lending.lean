import Screencast.Proofs.Encoder.Lending
import Screencast.Proofs.Video.Service
import Screencast.Proofs.Video.Stream

/-!
The output buffers of a video session. What is known of the last one follows from the stage
(`VideoStage.Lends`), and every step keeps that (`step_lends`), whatever the encoder and the sink do
with the buffer.
-/

namespace Screencast

open Lending (Behind Pending ofStep)

namespace VideoCall

def returned? : VideoCall → Option (Nat × Nat)
  | .encoder call => call.returned?
  | .display _ => none

theorem filterMap_returned (calls : List VideoCall) :
    (calls.filterMap (·.encoder?)).filterMap (·.returned?) = calls.filterMap (·.returned?) := by
  rw [List.filterMap_filterMap]
  refine List.filterMap_congr fun call _ => ?_
  cases call <;> rfl

end VideoCall

namespace VideoStage

/-- The output buffer at hand. -/
def loan? : VideoStage → Option Loan
  | .deliver a output | .sendHeader a output _ _ | .sendPacket a output _ | .giveBack a output _ =>
    some ⟨a.encoder, output⟩
  | _ => none

/-- What has happened to the last output buffer when a session is in a stage. -/
inductive Lends (sink : Sink) : VideoStage → List Lending → Prop
  | taken (a : Attempt) (output : OutputBuffer) :
      Lends sink (.deliver a output) (Loan.begun ⟨a.encoder, output⟩ sink.accepted none)
  | header {a : Attempt} {output : OutputBuffer} {data opening base : Bytes} {t : Transfer}
      (opens : Framer.IsOpening opening) (owes : sink.Owes base opening t) :
      Lends sink (.sendHeader a output data t)
        (Loan.begun ⟨a.encoder, output⟩ base (some (.ok data)))
  | packet {a : Attempt} {output : OutputBuffer} {data opening packet base : Bytes}
      {t : Transfer} (opens : Framer.IsOpening opening)
      (packs : Loan.Packs ⟨a.encoder, output⟩ data packet)
      (owes : sink.Owes base (opening ++ packet) t) :
      Lends sink (.sendPacket a output t) (Loan.begun ⟨a.encoder, output⟩ base (some (.ok data)))
  | written {a : Attempt} {output : OutputBuffer} {result : Except Error Unit} {base : Bytes}
      {content : Option (Except EncoderError Bytes)}
      (accounts : Loan.Accounts ⟨a.encoder, output⟩ base content sink.accepted) :
      Lends sink (.giveBack a output result) (Loan.begun ⟨a.encoder, output⟩ base content)
  | free {stage : VideoStage} (free : stage.loan? = none) : Lends sink stage []
  | abandoned {stage : VideoStage} {loan : Loan} {base left : Bytes}
      {content : Option (Except EncoderError Bytes)} (leaving : stage.Leaving)
      (accounts : loan.Accounts base content left) :
      Lends sink stage (loan.begun base content ++ [.abandoned left])

theorem Delivering.loan {stage : VideoStage} {a : Attempt} (h : stage.Delivering a) :
    ∃ output, stage.loan? = some ⟨a.encoder, output⟩ := by
  unfold Delivering at h
  split at h
  · exact ⟨_, by rw [← h]; rfl⟩
  · exact ⟨_, by rw [← h]; rfl⟩
  · exact ⟨_, by rw [← h]; rfl⟩
  · exact h.elim

theorem Leaving.free {stage : VideoStage} (h : stage.Leaving) : stage.loan? = none := by
  unfold Leaving at h
  split at h <;> first | rfl | contradiction

variable {stage : VideoStage} {sink after : Sink} {last : List Lending}

/-- What a session has at hand is what is pending. -/
theorem Lends.pending (lends : stage.Lends sink last) : Pending stage.loan? sink.accepted last := by
  cases lends with
  | taken a output => exact .held (Loan.accounts_start ..)
  | header opens owes => exact .held (Loan.accounts_of_opening opens owes.has)
  | packet opens packs owes => exact .held (Loan.accounts_of_has opens packs owes.has)
  | written accounts => exact .held accounts
  | free free =>
    rw [free]
    exact .none _
  | abandoned leaving accounts =>
    rw [leaving.free]
    exact .abandoned accounts

/-- Only what the sink has accepted counts. -/
theorem Lends.onSink (lends : stage.Lends sink last) (same : after.accepted = sink.accepted) :
    stage.Lends after last := by
  cases lends with
  | taken a output =>
    rw [← same]
    exact .taken a output
  | header opens owes =>
    refine .header opens ?_
    rw [Sink.Owes, same]
    exact owes
  | packet opens packs owes =>
    refine .packet opens packs ?_
    rw [Sink.Owes, same]
    exact owes
  | written accounts =>
    rw [← same] at accounts
    exact .written accounts
  | free free => exact .free free
  | abandoned leaving accounts => exact .abandoned leaving accounts

/-- From one stage without a buffer to the next. -/
theorem Lends.pass {next : VideoStage} (lends : stage.Lends sink last) (free : stage.loan? = none)
    (nextFree : next.loan? = none) (leaving : stage.Leaving → next.Leaving) :
    next.Lends after last := by
  cases lends with
  | taken | header | packet | written => cases free
  | free => exact .free nextFree
  | abandoned leaves accounts => exact .abandoned (leaving leaves) accounts

end VideoStage

namespace VideoSession

variable {σ : Type}

/-- The output buffer that a step takes from the queue. -/
def took? (s next : VideoSession σ) : Option Loan :=
  match s.stage with
  | .await a => (s.listening.took? next.listening).map (⟨a.encoder, ·⟩)
  | _ => none

/-- The calls on encoders that a step makes. -/
def madeCalls (s next : VideoSession σ) : List EncoderCall :=
  (next.calls.drop s.calls.length).filterMap (·.encoder?)

/-- What a step from `s` to `next` does with output buffers. -/
def lendings [EncoderHost σ] (s next : VideoSession σ) : List Lending :=
  ofStep (EncoderHost.readOutput s.host) (s.took? next) s.stage.loan? next.stage.loan?
    s.sink.accepted next.sink.accepted (s.madeCalls next)

def Lends (s : VideoSession σ) (entries : List Lending) : Prop :=
  ∃ last, Behind last entries ∧ s.stage.Lends s.sink last

variable {s next : VideoSession σ} {d : Device} {a : Attempt}

theorem took?_of_loan (held : s.stage.loan?.isSome = true) : s.took? next = none := by
  unfold took?
  split
  · rename_i stage
    rw [stage] at held
    cases held
  · rfl

/-! ### Beginning a packet -/

/-- A packet that is begun comes behind the header, or is the first thing to be written. -/
theorem beginPacket_lends {output : OutputBuffer} {data opening base : Bytes}
    (opens : Framer.IsOpening opening) (accepted : s.sink.accepted = base ++ opening) :
    (s.beginPacket a output data).stage.Lends s.sink
      (Loan.begun ⟨a.encoder, output⟩ base (some (.ok data))) := by
  have headed : Loan.Accounts ⟨a.encoder, output⟩ base (some (.ok data)) s.sink.accepted :=
    Loan.accounts_of_opening opens ⟨opening, accepted, List.prefix_refl _⟩
  unfold beginPacket
  split
  · exact .written headed
  · exact .written headed
  · rename_i packed
    exact .packet opens (Framer.packs_of_packet packed) ⟨opening, accepted, rfl⟩

theorem beginPacket_loan (s : VideoSession σ) (a : Attempt) (output : OutputBuffer) (data : Bytes) :
    (s.beginPacket a output data).stage.loan? = some ⟨a.encoder, output⟩ := by
  obtain ⟨framer, next, begun, ⟨result, rfl⟩ | ⟨t, rfl⟩⟩ := s.beginPacket_eq a output data
  · rw [begun]
    rfl
  · rw [begun]
    rfl

/-! ### Steps without a buffer -/

/-- A step that neither takes a buffer nor has one. -/
structure Apart (s next : VideoSession σ) : Prop where
  made : ∃ calls, next.calls = s.calls ++ calls ∧
    ∀ call ∈ calls.filterMap (·.encoder?), call.lends = false
  free : next.stage.loan? = none
  leaving : s.stage.Leaving → next.stage.Leaving

theorem madeCalls_eq {calls : List VideoCall} (made : next.calls = s.calls ++ calls) :
    s.madeCalls next = calls.filterMap (·.encoder?) := by
  rw [madeCalls, made, List.drop_left]

/-- Nothing was left behind yet, since the session goes on. -/
theorem Apart.going {calls : List VideoCall} (going : ¬s.stage.Leaving)
    (made : next.calls = s.calls ++ calls)
    (plain : ∀ call ∈ calls.filterMap (·.encoder?), call.lends = false)
    (free : next.stage.loan? = none) : s.Apart next :=
  ⟨⟨calls, made, plain⟩, free, fun leaving => absurd leaving going⟩

theorem Apart.silent (same : next.calls = s.calls) (free : next.stage.loan? = none)
    (leaving : s.stage.Leaving → next.stage.Leaving) : s.Apart next :=
  ⟨⟨[], by rw [same, List.append_nil], nofun⟩, free, leaving⟩

theorem exit_apart (result : Except Error Unit)
    (leaving : s.stage.Leaving → (s.exit result).stage.Leaving) : s.Apart (s.exit result) := by
  refine .silent (exit_calls ..) ?_ leaving
  obtain ⟨framer, next, exits, rfl | ⟨e, t, rfl, rfl⟩⟩ := s.exit_eq result <;> rw [exits] <;> rfl

theorem conclude_apart {size : Size} {ending : Except Error Ending}
    (stage : s.stage = .conclude size ending) : s.Apart (s.conclude d size ending).1 := by
  have stays (other : ending ≠ .ok .stopped) : ¬s.stage.Leaving := by
    rw [stage]
    unfold VideoStage.Leaving
    split
    · rename_i same
      cases same
    · rename_i same
      cases same
      exact absurd rfl other
    · rename_i same
      cases same
    · exact id
  have exits (result : Except Error Unit)
      (leaving : s.stage.Leaving → (s.exit result).stage.Leaving) :
      s.Apart (s.exit result, d).1 := exit_apart result leaving
  unfold conclude
  split
  · exact .silent rfl rfl fun leaving => absurd leaving (stays (by simp))
  · exact exits (.ok ()) fun _ => trivial
  · have going := stays (by simp)
    split
    · split
      · exact .silent rfl rfl fun leaving => absurd leaving going
      · exact exits _ fun leaving => absurd leaving going
    · exact exits _ fun leaving => absurd leaving going
  · exact exits _ fun leaving => absurd leaving (stays (by simp))

theorem announce_apart {e : Error} {t : Transfer} (stage : s.stage = .announce e t)
    (h : s.announce? e t = some next) : s.Apart next := by
  unfold announce? at h
  split at h
  · cases h
  · cases h
    exact .silent rfl rfl (by rw [stage]; exact id)
  · cases h
    exact .silent rfl rfl (by rw [stage]; exact False.elim)

theorem bind_apart {surface : Nat} {p : Projection} (stage : s.stage = .bind a surface p) :
    s.Apart (s.bind d a surface p).1 := by
  have going : ¬s.stage.Leaving := by rw [stage]; exact id
  unfold bind
  dsimp only [record]
  rcases d.platform.setSurface p with ⟨platform, e | _⟩
  · exact .going going rfl (by simp [VideoCall.encoder?, EncoderCall.lends]) rfl
  · exact .going going rfl (by simp [VideoCall.encoder?, EncoderCall.lends]) rfl

variable [EncoderHost σ]

theorem openEncoder_apart {size : Size} (stage : s.stage = .openEncoder size) :
    s.Apart (s.openEncoder size) := by
  have going : ¬s.stage.Leaving := by rw [stage]; exact id
  unfold openEncoder
  dsimp only [record]
  cases openEncoder_settled s.host s.setup.codec.mime s.setup.encoderName with
  | refused result calls final =>
    rw [result]
    refine .going going rfl ?_ rfl
    rcases calls with none | ⟨name, one⟩
    · simp [none]
    · simp [one, VideoCall.encoder?, EncoderCall.lends]
  | made result calls =>
    rw [result, calls]
    exact .going going rfl (by simp [VideoCall.encoder?, EncoderCall.lends]) rfl

theorem createDisplay_apart {encoder : Nat} {size : Size}
    (stage : s.stage = .createDisplay encoder size) :
    s.Apart (s.createDisplay d encoder size).1 := by
  have going : ¬s.stage.Leaving := by rw [stage]; exact id
  unfold createDisplay
  dsimp only
  rcases d.platform.createDisplay with ⟨platform, e | display⟩
  · exact .going going rfl (by simp [VideoCall.encoder?, EncoderCall.lends]) rfl
  · exact .going going rfl (by simp [VideoCall.encoder?, EncoderCall.lends]) rfl

theorem configure_apart (stage : s.stage = .configure a) : s.Apart (s.configure a) := by
  have going : ¬s.stage.Leaving := by rw [stage]; exact id
  unfold configure
  dsimp only [record]
  rcases EncoderHost.configure s.host a.encoder (s.baseFormat.withSize a.size) with ⟨host, e | _⟩
  · exact .going going rfl (by simp [VideoCall.encoder?, EncoderCall.lends]) rfl
  · exact .going going rfl (by simp [VideoCall.encoder?, EncoderCall.lends]) rfl

theorem createSurface_apart (stage : s.stage = .createSurface a) : s.Apart (s.createSurface a) := by
  have going : ¬s.stage.Leaving := by rw [stage]; exact id
  unfold createSurface
  dsimp only [record]
  rcases EncoderHost.surface s.host a.encoder with ⟨host, e | surface⟩
  · exact .going going rfl (by simp [VideoCall.encoder?, EncoderCall.lends]) rfl
  · exact .going going rfl (by simp [VideoCall.encoder?, EncoderCall.lends]) rfl

theorem startEncoder_apart (stage : s.stage = .startEncoder a) : s.Apart (s.startEncoder a) := by
  have going : ¬s.stage.Leaving := by rw [stage]; exact id
  unfold startEncoder
  dsimp only [record]
  rcases EncoderHost.start s.host a.encoder with ⟨host, e | _⟩
  · exact .going going rfl (by simp [VideoCall.encoder?, EncoderCall.lends]) rfl
  · exact .going going rfl (by simp [VideoCall.encoder?, EncoderCall.lends]) rfl

theorem tearDown_apart {ending : Except Error Ending} (stage : s.stage = .tearDown a ending) :
    s.Apart (s.tearDown d a ending).1 := by
  refine ⟨⟨_, rfl, by simp [VideoCall.encoder?, EncoderCall.lends]⟩, rfl, ?_⟩
  rw [stage]
  unfold tearDown
  cases ending with
  | error e => exact id
  | ok ending => cases ending <;> exact id

theorem lendings_of_apart (apart : s.Apart next) (free : s.stage.loan? = none)
    (idle : s.took? next = none) : s.lendings next = [] := by
  obtain ⟨calls, made, plain⟩ := apart.made
  rw [lendings, madeCalls_eq made, Lending.ofStep_plain plain, idle, free]
  rfl

theorem Lends.apart {entries : List Lending} (lends : s.Lends entries) (apart : s.Apart next)
    (free : s.stage.loan? = none) (idle : s.took? next = none) :
    next.Lends (entries ++ s.lendings next) := by
  obtain ⟨last, behind, lends⟩ := lends
  rw [lendings_of_apart apart free idle, List.append_nil]
  exact ⟨last, behind, lends.pass free apart.free apart.leaving⟩

/-- A step that makes no call and goes on with the buffer. -/
theorem lends_kept {entries last : List Lending} {loan : Loan} (behind : Behind last entries)
    (held : s.stage.loan?.isSome = true) (same : next.calls = s.calls)
    (kept : next.stage.loan? = some loan) (lends : next.stage.Lends next.sink last) :
    next.Lends (entries ++ s.lendings next) := by
  have idle : s.took? next = none := took?_of_loan held
  have none : s.madeCalls next = [] := by rw [madeCalls, same, List.drop_length, List.filterMap_nil]
  have silent : s.lendings next = [] := by simp [lendings, ofStep, idle, kept, none]
  rw [silent, List.append_nil]
  exact ⟨last, behind, lends⟩

/-! ### Steps with a buffer -/

/-- The stop signal comes in the middle of a delivery. -/
theorem Lends.stop {entries : List Lending} {loan : Loan} (lends : s.Lends entries)
    (held : s.stage.loan? = some loan) (h : s.stopBranch a = some next) :
    next.Lends (entries ++ s.lendings next) := by
  obtain ⟨last, behind, lends⟩ := lends
  have pending := lends.pending
  rw [held] at pending
  have idle : s.took? next = none := took?_of_loan (by rw [held]; rfl)
  unfold stopBranch at h
  split at h <;> cases h
  have gone : s.lendings { s with stage := .tearDown a (.ok .stopped) } =
      [.abandoned s.sink.accepted] := by
    have free : (VideoStage.tearDown a (.ok .stopped)).loan? = none := rfl
    simp [lendings, ofStep, idle, held, madeCalls, free]
  rw [gone]
  cases pending with
  | held accounts => exact ⟨_, behind.more _, .abandoned trivial accounts⟩

theorem await_lends {entries : List Lending} {pick : Nat} (stage : s.stage = .await a)
    (lends : s.Lends entries) (h : s.await pick d a = some next) :
    next.Lends (entries ++ s.lendings next) := by
  have free : s.stage.loan? = none := by rw [stage]; rfl
  have going : ¬s.stage.Leaving := by rw [stage]; exact id
  -- whatever ends the attempt here, the queue of output buffers is as it was
  have off {next : VideoSession σ} (calls : next.calls = s.calls)
      (listening : next.listening = s.listening) (nextFree : next.stage.loan? = none) :
      next.Lends (entries ++ s.lendings next) := by
    refine lends.apart (.silent calls nextFree fun leaving => absurd leaving going) free ?_
    rw [took?, stage, listening, Listening.took?_same]
    rfl
  have branches := mem_of_firstReady h
  simp only [List.mem_cons, List.not_mem_nil, or_false] at branches
  rcases branches with stopped | failed | turned | output
  · unfold stopBranch at stopped
    split at stopped <;> cases stopped
    exact off rfl rfl rfl
  · obtain ⟨e, -, rfl⟩ := Option.map_eq_some_iff.mp failed.symm
    exact off rfl rfl rfl
  · unfold rotationBranch at turned
    split at turned <;> cases turned
    exact off rfl rfl rfl
  · unfold outputBranch at output
    split at output <;> cases output
    · rename_i listening output taken
      obtain ⟨last, behind, lends⟩ := lends
      have none : last = [] := by
        rw [stage] at lends
        cases lends with
        | free => rfl
        | abandoned leaving => exact leaving.elim
      have took : s.took? { s with listening, stage := .deliver a output } =
          some ⟨a.encoder, output⟩ := by
        rw [took?, stage, Listening.took?_item taken]
        rfl
      have noted : s.lendings { s with listening, stage := .deliver a output } =
          [.taken ⟨a.encoder, output⟩ s.sink.accepted] := by
        simp [lendings, ofStep, took, free, madeCalls]
      rw [noted]
      rw [none] at behind
      exact ⟨_, behind.more _, .taken a output⟩
    · rename_i listening taken
      exact off rfl (Listening.takeOutput_ended taken) rfl

section

variable {output : OutputBuffer} {entries : List Lending}

/-- A step in which the content is read. -/
theorem lends_read {content : Except EncoderError Bytes}
    (behind : Behind (Loan.begun ⟨a.encoder, output⟩ s.sink.accepted none) entries)
    (stage : s.stage = .deliver a output)
    (read : EncoderHost.readOutput s.host a.encoder output.index = content)
    (made : next.calls = s.calls ++ [.encoder (.readOutput a.encoder output.index)])
    (kept : next.stage.loan? = some ⟨a.encoder, output⟩)
    (lends : next.stage.Lends next.sink
      (Loan.begun ⟨a.encoder, output⟩ s.sink.accepted (some content))) :
    next.Lends (entries ++ s.lendings next) := by
  have idle : s.took? next = none := took?_of_loan (by rw [stage]; rfl)
  have noted : s.lendings next = [.read content] := by
    simp [lendings, ofStep, idle, kept, madeCalls_eq made, VideoCall.encoder?, Lending.ofCall?,
      read]
  rw [noted]
  exact ⟨_, behind.more _, lends⟩

theorem deliver_lends (stage : s.stage = .deliver a output) (lends : s.Lends entries) :
    (s.deliver a output).Lends (entries ++ s.lendings (s.deliver a output)) := by
  obtain ⟨last, behind, lends⟩ := lends
  have begins : last = Loan.begun ⟨a.encoder, output⟩ s.sink.accepted none := by
    rw [stage] at lends
    cases lends with
    | taken => rfl
    | free free => cases free
    | abandoned leaving => exact leaving.elim
  rw [begins] at behind
  unfold deliver
  split
  · exact lends_kept behind (by rw [stage]; rfl) rfl rfl (.written (Loan.accounts_start ..))
  · dsimp only [record]
    cases read : EncoderHost.readOutput s.host a.encoder output.index with
    | error e => exact lends_read behind stage read rfl rfl (.written (Loan.accounts_start ..))
    | ok data =>
      dsimp only
      rcases opened : s.framer.videoHeader a.size with ⟨framer, _ | bytes⟩
      · refine lends_read behind stage read (beginPacket_calls ..) (beginPacket_loan ..) ?_
        rw [beginPacket_sink]
        exact beginPacket_lends (.inl rfl) (List.append_nil _).symm
      · exact lends_read behind stage read rfl rfl
          (.header (Framer.isOpening_of_videoHeader opened) ⟨[], (List.append_nil _).symm, rfl⟩)

theorem sendHeader_lends {data : Bytes} {t : Transfer}
    (stage : s.stage = .sendHeader a output data t) (lends : s.Lends entries)
    (h : s.sendHeader? a output data t = some next) : next.Lends (entries ++ s.lendings next) := by
  have held : s.stage.loan?.isSome = true := by rw [stage]; rfl
  obtain ⟨last, behind, lends⟩ := lends
  rw [stage] at lends
  cases lends with
  | free free => cases free
  | abandoned leaving => exact leaving.elim
  | header opens owes =>
    unfold sendHeader? at h
    split at h
    · cases h
    · rename_i written
      cases h
      exact lends_kept behind held rfl rfl (.header opens (owes.stalls written))
    · rename_i sink written
      cases h
      refine lends_kept behind held (beginPacket_calls ..) (beginPacket_loan ..) ?_
      rw [beginPacket_sink]
      exact beginPacket_lends (s := { s with sink }) opens (owes.done written)
    · rename_i written
      cases h
      exact lends_kept behind held rfl rfl
        (.written (Loan.accounts_of_opening opens (owes.ends written)))

theorem sendPacket_lends {t : Transfer} (stage : s.stage = .sendPacket a output t)
    (lends : s.Lends entries) (h : s.sendPacket? a output t = some next) :
    next.Lends (entries ++ s.lendings next) := by
  have held : s.stage.loan?.isSome = true := by rw [stage]; rfl
  obtain ⟨last, behind, lends⟩ := lends
  rw [stage] at lends
  cases lends with
  | free free => cases free
  | abandoned leaving => exact leaving.elim
  | packet opens packs owes =>
    unfold sendPacket? at h
    split at h
    · cases h
    · rename_i written
      cases h
      exact lends_kept behind held rfl rfl (.packet opens packs (owes.stalls written))
    · rename_i written
      cases h
      exact lends_kept behind held rfl rfl
        (.written (Loan.accounts_of_has opens packs (owes.ends written)))

/-- Whatever comes of giving a buffer back, it is the one call that is made. -/
theorem giveBack_after (s : VideoSession σ) (a : Attempt) (output : OutputBuffer)
    (written : Except Error Unit) :
    (s.giveBack a output written).calls =
        s.calls ++ [.encoder (.returnOutput a.encoder output.index)] ∧
      (s.giveBack a output written).sink = s.sink ∧
      (s.giveBack a output written).stage.loan? = none := by
  unfold giveBack
  dsimp only [record]
  rcases EncoderHost.returnOutput s.host a.encoder output.index with ⟨host, e | _⟩
  · exact ⟨rfl, rfl, rfl⟩
  · rcases written with e | _
    · exact ⟨rfl, rfl, rfl⟩
    · dsimp only
      split
      · exact ⟨rfl, rfl, rfl⟩
      · exact ⟨rfl, rfl, rfl⟩

theorem giveBack_lends {written : Except Error Unit} (stage : s.stage = .giveBack a output written)
    (lends : s.Lends entries) :
    (s.giveBack a output written).Lends (entries ++ s.lendings (s.giveBack a output written)) := by
  have held : s.stage.loan? = some ⟨a.encoder, output⟩ := by rw [stage]; rfl
  have idle : s.took? (s.giveBack a output written) = none := took?_of_loan (by rw [held]; rfl)
  obtain ⟨made, sink, free⟩ := s.giveBack_after a output written
  have noted : s.lendings (s.giveBack a output written) =
      [.returned a.encoder output.index s.sink.accepted] := by
    simp [lendings, ofStep, idle, held, free, sink, madeCalls_eq made, VideoCall.encoder?,
      Lending.ofCall?, EncoderCall.returned?]
  obtain ⟨last, behind, lends⟩ := lends
  have pending := lends.pending
  rw [held] at pending
  rw [noted]
  cases pending with
  | held accounts => exact ⟨[], (behind.more _).close (.story accounts), .free free⟩

end

/-- Every step of a session keeps its ledger. -/
theorem step_lends {entries : List Lending} {pick : Nat} {after : VideoSession σ × Device}
    (lends : s.Lends entries) (h : s.step pick d = some after) :
    after.1.Lends (entries ++ s.lendings after.1) := by
  have idle (free : ∀ a, s.stage ≠ .await a) (next : VideoSession σ) : s.took? next = none := by
    unfold took?
    split
    · rename_i stage
      exact absurd stage (free _)
    · rfl
  cases advance_of_step h with
  | observe stage | measure stage | project stage =>
    exact lends.apart (.silent rfl rfl (by rw [stage]; exact False.elim)) (by rw [stage]; rfl)
      (idle (by simp [stage]) _)
  | openEncoder stage =>
    exact lends.apart (openEncoder_apart stage) (by rw [stage]; rfl) (idle (by simp [stage]) _)
  | createDisplay stage =>
    exact lends.apart (createDisplay_apart stage) (by rw [stage]; rfl) (idle (by simp [stage]) _)
  | configure stage =>
    exact lends.apart (configure_apart stage) (by rw [stage]; rfl) (idle (by simp [stage]) _)
  | createSurface stage =>
    exact lends.apart (createSurface_apart stage) (by rw [stage]; rfl) (idle (by simp [stage]) _)
  | bind stage =>
    exact lends.apart (bind_apart stage) (by rw [stage]; rfl) (idle (by simp [stage]) _)
  | startEncoder stage =>
    exact lends.apart (startEncoder_apart stage) (by rw [stage]; rfl) (idle (by simp [stage]) _)
  | await stage ready => exact await_lends stage lends ready
  | stop delivering stopped =>
    obtain ⟨output, held⟩ := delivering.loan
    exact lends.stop held stopped
  | deliver stage => exact deliver_lends stage lends
  | sendHeader stage sent => exact sendHeader_lends stage lends sent
  | sendPacket stage sent => exact sendPacket_lends stage lends sent
  | giveBack stage => exact giveBack_lends stage lends
  | tearDown stage =>
    exact lends.apart (tearDown_apart stage) (by rw [stage]; rfl) (idle (by simp [stage]) _)
  | conclude stage =>
    exact lends.apart (conclude_apart stage) (by rw [stage]; rfl) (idle (by simp [stage]) _)
  | announce stage told =>
    exact lends.apart (announce_apart stage told) (by rw [stage]; rfl) (idle (by simp [stage]) _)

end VideoSession

end Screencast
