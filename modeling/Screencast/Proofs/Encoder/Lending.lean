import Screencast.Encoder.Host
import Screencast.Proofs.Encoder.Listening
import Screencast.Proofs.Stream.Adts
import Screencast.Proofs.Stream.Opening

/-!
What a session does with the output buffers of its encoders, as a list of what happens to them
(`Lending`). The list is a ledger in order if each buffer goes back to its encoder before the next
one is taken, and if no more of it was written in between than was announced and than there is
(`Lending.Ledger`). A buffer may be left behind only at the end.
-/

namespace Screencast

/-- An output buffer, and the encoder that it belongs to. -/
structure Loan where
  encoder : Nat
  output : OutputBuffer
deriving DecidableEq, Repr

/-- What happens to output buffers, and what the sink had accepted by then. -/
inductive Lending where
  | taken (loan : Loan) (accepted : Bytes)
  | read (content : Except EncoderError Bytes)
  | returned (encoder index : Nat) (accepted : Bytes)
  /-- The session goes on without the buffer, which was not given back. -/
  | abandoned (accepted : Bytes)
deriving DecidableEq, Repr

/-- The output buffer that was taken, if one was. -/
def Listening.took? (l after : Listening) : Option OutputBuffer :=
  match l.takeOutput with
  | (left, .item output) => if after = left then some output else none
  | _ => none

namespace Listening

variable {l after : Listening}

theorem took?_same (l : Listening) : l.took? l = none := by
  unfold took?
  split
  · rename_i left output taken
    have shorter := (takeOutput_shorter taken).1
    exact if_neg fun same => by rw [← same] at shorter; omega
  · rfl

theorem took?_item {output : OutputBuffer} (taken : l.takeOutput = (after, .item output)) :
    l.took? after = some output := by
  rw [took?, taken]
  exact if_pos rfl

/-- An input buffer is not an output buffer. -/
theorem took?_input {index : Nat} (taken : l.takeInput = (after, .item index)) :
    l.took? after = none := by
  unfold took?
  split
  · rename_i left output other
    have shorter := (takeInput_shorter taken).1
    have same := (takeOutput_shorter other).2
    exact if_neg fun eq => by rw [eq, same] at shorter; omega
  · rfl

end Listening

namespace EncoderCall

def returned? : EncoderCall → Option (Nat × Nat)
  | .returnOutput encoder index => some (encoder, index)
  | _ => none

/-- The call reads an output buffer or gives one back. -/
def lends : EncoderCall → Bool
  | .readOutput _ _ | .returnOutput _ _ => true
  | _ => false

end EncoderCall

namespace Lending

def returned? : Lending → Option (Nat × Nat)
  | .returned encoder index _ => some (encoder, index)
  | _ => none

def ofCall? (content : Nat → Nat → Except EncoderError Bytes) (accepted : Bytes) :
    EncoderCall → Option Lending
  | .readOutput encoder index => some (.read (content encoder index))
  | .returnOutput encoder index => some (.returned encoder index accepted)
  | _ => none

/-- A step with these calls, in which this buffer is taken. It holds one buffer before and maybe
one after. -/
def ofStep (content : Nat → Nat → Except EncoderError Bytes) (took held kept : Option Loan)
    (before after : Bytes) (calls : List EncoderCall) : List Lending :=
  took.toList.map (.taken · before) ++ calls.filterMap (ofCall? content after) ++
    if held.isSome && kept.isNone && (calls.filterMap (·.returned?)).isEmpty then
      [.abandoned after] else []

/-- Other calls have nothing to do with output buffers. -/
theorem ofStep_plain {content : Nat → Nat → Except EncoderError Bytes}
    {took held kept : Option Loan} {before after : Bytes} {calls : List EncoderCall}
    (plain : ∀ call ∈ calls, call.lends = false) :
    ofStep content took held kept before after calls = took.toList.map (.taken · before) ++
      if held.isSome && kept.isNone then [.abandoned after] else [] := by
  have quiet {call : EncoderCall} (member : call ∈ calls) :
      ofCall? content after call = none ∧ call.returned? = none := by
    have other := plain call member
    cases call with
    | readOutput | returnOutput => cases other
    | create | configure | surface | start | submitInput | closeQueues | stop | release =>
      exact ⟨rfl, rfl⟩
  have unread : calls.filterMap (ofCall? content after) = [] :=
    List.filterMap_eq_nil_iff.mpr fun call member => (quiet member).1
  have unreturned : calls.filterMap (·.returned?) = [] :=
    List.filterMap_eq_nil_iff.mpr fun call member => (quiet member).2
  rw [ofStep, unread, unreturned, List.append_nil, List.isEmpty_nil, Bool.and_true]

/-- What is given back is what the calls give back. -/
theorem returned_ofStep (content : Nat → Nat → Except EncoderError Bytes)
    (took held kept : Option Loan) (before after : Bytes) (calls : List EncoderCall) :
    (ofStep content took held kept before after calls).filterMap returned? =
      calls.filterMap (·.returned?) := by
  have taken : (took.toList.map (Lending.taken · before)).filterMap returned? = [] := by
    cases took <;> rfl
  have called : (calls.filterMap (ofCall? content after)).filterMap returned? =
      calls.filterMap (·.returned?) := by
    rw [List.filterMap_filterMap]
    refine List.filterMap_congr fun call _ => ?_
    cases call <;> rfl
  rw [ofStep, List.filterMap_append, List.filterMap_append, taken, called, List.nil_append]
  split
  · exact List.append_nil _
  · exact List.append_nil _

/-- A buffer is left behind only where it was at hand, is not any more and was not given back. -/
theorem of_abandoned {content : Nat → Nat → Except EncoderError Bytes}
    {took held kept : Option Loan} {before after left : Bytes} {calls : List EncoderCall}
    (gone : .abandoned left ∈ ofStep content took held kept before after calls) :
    held.isSome = true ∧ kept = none ∧ calls.filterMap (·.returned?) = [] := by
  rw [ofStep, List.mem_append, List.mem_append] at gone
  rcases gone with (taken | called) | last
  · cases took with
    | none => cases taken
    | some loan => simp at taken
  · obtain ⟨call, -, entry⟩ := List.mem_filterMap.mp called
    cases call <;> cases entry
  · split at last
    · rename_i empty
      simpa [and_assoc] using empty
    · cases last

end Lending

/-! ### What is written for a buffer -/

/-- A packet for a buffer with this content: at most twelve bytes about it, and then as many of its
first bytes as were announced, or all if there are fewer. -/
def Loan.Packs (loan : Loan) (data packet : Bytes) : Prop :=
  ∃ about payload, packet = about ++ payload ∧ about.length ≤ 12 ∧ payload <+: data ∧
    payload.length = min loan.output.info.size data.length

/-- What may come in front of the first packet: nothing, or a header for pictures. -/
def Framer.IsOpening (opening : Bytes) : Prop :=
  opening = [] ∨ ∃ codec size, announcement? codec (.videoHeader size) = some opening

/-- Nothing of a transfer is written before it begins. -/
theorem Sink.owes_start (s : Sink) (bytes : Bytes) : s.Owes s.accepted bytes { rest := bytes } :=
  ⟨[], (List.append_nil _).symm, rfl⟩

namespace Loan

/-- What was written for a buffer: the front of its packet, maybe behind a header; and nothing
unless the encoder gave the content out. -/
inductive Wrote (loan : Loan) : Option (Except EncoderError Bytes) → Bytes → Prop
  | nothing (content : Option (Except EncoderError Bytes)) : Wrote loan content []
  | front {data opening packet written : Bytes} (opens : Framer.IsOpening opening)
      (packs : loan.Packs data packet) (front : written <+: opening ++ packet) :
      Wrote loan (some (.ok data)) written

/-- The sink had `base` when the buffer was taken, and has since accepted what was written for
it. -/
def Accounts (loan : Loan) (base : Bytes) (content : Option (Except EncoderError Bytes))
    (accepted : Bytes) : Prop :=
  ∃ written, accepted = base ++ written ∧ loan.Wrote content written

/-- How the story of a buffer begins: it is taken, and maybe read. -/
def begun (loan : Loan) (base : Bytes) (content : Option (Except EncoderError Bytes)) :
    List Lending :=
  .taken loan base :: content.toList.map .read

variable {loan : Loan} {base data packet opening : Bytes} {sink : Sink}

theorem accounts_start (loan : Loan) (base : Bytes)
    (content : Option (Except EncoderError Bytes)) : loan.Accounts base content base :=
  ⟨[], (List.append_nil _).symm, .nothing content⟩

theorem accounts_of_has (opens : Framer.IsOpening opening) (packs : loan.Packs data packet)
    (has : sink.Has base (opening ++ packet)) :
    loan.Accounts base (some (.ok data)) sink.accepted := by
  obtain ⟨written, accepted, front⟩ := has
  exact ⟨written, accepted, .front opens packs front⟩

/-- As long as the packet is not made, what is written is of the header alone. -/
theorem accounts_of_opening (opens : Framer.IsOpening opening) (has : sink.Has base opening) :
    loan.Accounts base (some (.ok data)) sink.accepted := by
  obtain ⟨written, accepted, front⟩ := has
  have packs : loan.Packs data (data.take loan.output.info.size) :=
    ⟨[], _, rfl, Nat.zero_le _, List.take_prefix .., List.length_take⟩
  exact ⟨written, accepted, .front opens packs (front.trans (List.prefix_append ..))⟩

end Loan

namespace Framer

theorem isOpening_of_videoHeader {f after : Framer} {size : Size} {bytes : Bytes}
    (opened : f.videoHeader size = (after, some bytes)) : IsOpening bytes := by
  refine .inr ⟨f.codec, size, ?_⟩
  unfold videoHeader header opening at opened
  split at opened
  · cases opened
  · split at opened
    · cases opened
      rfl
    · cases opened

theorem packs_of_adtsPacket {f after : Framer} {unit : AccessUnit} {bytes : Bytes}
    (packed : f.adtsPacket unit = .ok (after, some bytes)) :
    ∃ about, bytes = about ++ unit.data ∧ about.length ≤ 12 := by
  unfold adtsPacket at packed
  split at packed
  · cases packed
  · split at packed <;> cases packed
    rename_i header found
    have known : Adts.rateTable.idxOf? audioFormat.sampleRate = some 3 := by decide
    refine ⟨header, rfl, ?_⟩
    rw [Adts.header?_length known (by decide) found]
    decide

/-- A packet ends with the data of its unit. -/
theorem packs_of_packet {f after : Framer} {loan : Loan} {data packet : Bytes}
    (packed : f.packet (loan.output.info.unit data) = .ok (after, some packet)) :
    loan.Packs data packet := by
  suffices h : ∃ about, packet = about ++ data.take loan.output.info.size ∧ about.length ≤ 12 by
    obtain ⟨about, split, short⟩ := h
    exact ⟨about, _, split, short, List.take_prefix .., List.length_take⟩
  unfold Framer.packet at packed
  split at packed
  · cases packed
  · split at packed
    · exact packs_of_adtsPacket packed
    · split at packed <;> cases packed
      · exact ⟨_, rfl, by simp [Packet.frameMeta, Bytes.length_ofNat]⟩
      · exact ⟨[], rfl, Nat.zero_le _⟩

end Framer

/-! ### The ledger -/

namespace Lending

/-- The whole story of a buffer that was given back. -/
inductive Returned : List Lending → Prop
  | story {loan : Loan} {base accepted : Bytes} {content : Option (Except EncoderError Bytes)}
      (accounts : loan.Accounts base content accepted) :
      Returned (loan.begun base content ++
        [.returned loan.encoder loan.output.index accepted])

/-- What comes behind the last buffer that was given back. -/
inductive Pending : Option Loan → Bytes → List Lending → Prop
  | none (accepted : Bytes) : Pending none accepted []
  /-- One is at hand. -/
  | held {loan : Loan} {base accepted : Bytes} {content : Option (Except EncoderError Bytes)}
      (accounts : loan.Accounts base content accepted) :
      Pending (some loan) accepted (loan.begun base content)
  /-- One was left behind. -/
  | abandoned {loan : Loan} {base left accepted : Bytes}
      {content : Option (Except EncoderError Bytes)} (accounts : loan.Accounts base content left) :
      Pending none accepted (loan.begun base content ++ [.abandoned left])

/-- The entries are the stories of buffers that were given back, one after the other, and then
`last`. -/
def Behind (last entries : List Lending) : Prop :=
  ∃ stories : List (List Lending),
    entries = stories.flatten ++ last ∧ ∀ story ∈ stories, Returned story

/-- Buffers are given back one by one, and `held` is at hand. -/
def Ledger (held : Option Loan) (accepted : Bytes) (entries : List Lending) : Prop :=
  ∃ last, Behind last entries ∧ Pending held accepted last

variable {last entries : List Lending}

theorem Behind.start : Behind [] [] := ⟨[], rfl, nofun⟩

theorem Behind.more (behind : Behind last entries) (more : List Lending) :
    Behind (last ++ more) (entries ++ more) := by
  obtain ⟨stories, split, returned⟩ := behind
  exact ⟨stories, by rw [split, List.append_assoc], returned⟩

/-- A story that is over counts among the others. -/
theorem Behind.close (behind : Behind last entries) (finished : Returned last) :
    Behind [] entries := by
  obtain ⟨stories, split, returned⟩ := behind
  refine ⟨stories ++ [last], by simp [split], fun story member => ?_⟩
  rcases List.mem_append.mp member with before | this
  · exact returned story before
  · rw [List.mem_singleton.mp this]
    exact finished

end Lending

end Screencast
