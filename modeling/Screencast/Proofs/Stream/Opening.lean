import Screencast.Proofs.Stream.Announcement
import Screencast.Proofs.Stream.Transfer

/-!
What the calls on a stream channel with codec meta leave on its sink, in any order and whatever the
sink makes of them. Nothing is written before the first header or marker, and no second one is ever
written (`Opened`). Behind that only packets write; a marker does not keep them from it
(`written_behind_marker`), so a disabled stream is the marker alone as long as its user sends none.
-/

namespace Screencast

open Channel (Call Reply)

namespace Framer

/-- The header or the marker that a call is for. -/
def announcement? (codec : ChannelCodec) : Call → Option Bytes
  | .videoHeader size => some (Bytes.ofNat 4 codec.id ++ Bytes.ofNat 4 8 ++
      (Bytes.ofNat 4 size.width ++ Bytes.ofNat 4 size.height))
  | .audioHeader => some (Bytes.ofNat 4 codec.id ++ Bytes.ofNat 4 0)
  | .disable isError => some (if isError then errorMarker else disabledMarker)
  | .packet _ => none

variable {f : Framer} {call : Call} {bytes : Bytes}

theorem frame_unsent (unsent : f.headerSent = false) (told : f.codecMeta = true)
    (found : announcement? f.codec call = some bytes) :
    call.frame f = .ok (f.begun, some bytes) := by
  cases call with
  | packet unit => cases found
  | audioHeader | disable =>
    cases found
    simp [Call.frame, audioHeader, header, disable, opening, begun, unsent, told]
  | videoHeader size =>
    cases found
    simp [Call.frame, videoHeader, header, opening, begun, unsent, told]

theorem packet_unsent (unsent : f.headerSent = false) (unit : AccessUnit) :
    Call.frame (.packet unit) f = .error (.configuration .packetBeforeHeader) := by
  simp [Call.frame, packet, unsent]

theorem frame_sent {codec : ChannelCodec} (sent : f.headerSent = true)
    (found : announcement? codec call = some bytes) : call.frame f = .ok (f, none) := by
  cases call with
  | packet unit => cases found
  | audioHeader => simp [Call.frame, audioHeader, header, opening, sent]
  | disable => simp [Call.frame, disable, opening, sent]
  | videoHeader size => simp [Call.frame, videoHeader, header, opening, sent]

end Framer

namespace Sink

/-- Only what goes on to the end takes all bytes. -/
theorem advance_whole {s : Sink} (zero : IoError) {total n : Nat}
    (whole : (s.advance zero total n).1 = total + n) : (s.advance zero total n).2 = .done := by
  induction n using Nat.strongRecOn generalizing total with
  | ind n ih =>
    rw [advance] at whole ⊢
    split
    · rfl
    · rename_i some
      rw [if_neg some] at whole
      split at whole
      · dsimp only at whole
        omega
      · dsimp only at whole
        omega
      · dsimp only at whole
        omega
      · rename_i k taken
        have fits := (offer_taken taken).1
        exact ih _ (by omega) (by omega)

/-- A write takes the first of the bytes, and is done exactly when it has taken them all. -/
theorem write_prefix (s : Sink) (bytes : Bytes) :
    ∃ taken, (s.write bytes).1.accepted = s.accepted ++ taken ∧ taken <+: bytes ∧
      ((s.write bytes).2 = .done ↔ taken = bytes) := by
  have reached := s.advanced ⟨.writeZero, none⟩ s.accepted.length bytes.length
  have last := @advance_whole s ⟨.writeZero, none⟩ s.accepted.length bytes.length
  unfold write writeOr
  dsimp only
  generalize s.advance _ s.accepted.length bytes.length = far at reached last
  obtain ⟨total, outcome⟩ := far
  have whole : bytes.take (total - s.accepted.length) = bytes ↔
      total = s.accepted.length + bytes.length := by
    have forward := reached.forward
    have within := reached.within
    dsimp only at forward within
    constructor
    · intro same
      have length := congrArg List.length same
      rw [List.length_take] at length
      omega
    · intro far
      exact List.take_of_length_le (by omega)
  refine ⟨bytes.take (total - s.accepted.length), ?_, List.take_prefix _ bytes, ?_⟩
  · cases outcome <;> rfl
  · rw [whole]
    refine ⟨fun done => ?_, fun far => ?_⟩
    · cases outcome with
      | done => exact reached.done rfl
      | stalled | failed => cases done
    · cases last far
      rfl

end Sink

namespace Channel

/-- A call, what it returned, and what the sink took while it went on. -/
structure Entry where
  call : Call
  reply : Reply
  taken : Bytes
deriving DecidableEq, Repr

/-- What happens to a channel: a call, or its sink gets more room or is cut off. -/
inductive Event where
  | call (call : Call)
  | drain (n : Nat)
  | hangUp (e : IoError)

def entry (c : Channel) (call : Call) : Entry :=
  ⟨call, (c.perform call).2, (c.perform call).1.sink.accepted.drop c.sink.accepted.length⟩

/-- The channel after an event, and the entry it makes in the log. -/
def event (c : Channel) : Event → Channel × Option Entry
  | .call call => ((c.perform call).1, some (c.entry call))
  | .drain n => (⟨c.framer, c.sink.drain n⟩, none)
  | .hangUp e => (⟨c.framer, c.sink.breakWith e⟩, none)

def after (c : Channel) (events : List Event) : Channel :=
  events.foldl (fun c event => (c.event event).1) c

/-- The calls among the events, in order. -/
def log (c : Channel) : List Event → List Entry
  | [] => []
  | event :: events => (c.event event).2.toList ++ (c.event event).1.log events

namespace Entry

/-- A packet that comes too early. -/
structure Refused (e : Entry) : Prop where
  packet : ∃ unit, e.call = .packet unit
  reply : e.reply = .error (.configuration .packetBeforeHeader)
  taken : e.taken = []

/-- The call writes its header or its marker, as far as the sink lets it. -/
structure Announces (codec : ChannelCodec) (e : Entry) (bytes : Bytes) : Prop where
  call : Framer.announcement? codec e.call = some bytes
  taken : e.taken <+: bytes
  reply : e.reply = .ok ↔ e.taken = bytes

/-- What is not a packet changes nothing. -/
def Follows (codec : ChannelCodec) (e : Entry) : Prop :=
  Framer.announcement? codec e.call ≠ none → e.reply = .ok ∧ e.taken = []

end Entry

/-- The log of a channel that had written nothing: packets are refused until a call writes its
header or its marker, and then only packets write. -/
inductive Opened (codec : ChannelCodec) : List Entry → Prop where
  | empty : Opened codec []
  | early {e : Entry} {rest : List Entry} (refused : e.Refused) (opened : Opened codec rest) :
      Opened codec (e :: rest)
  | opening {e : Entry} {bytes : Bytes} {rest : List Entry} (announces : e.Announces codec bytes)
      (follow : ∀ later ∈ rest, later.Follows codec) : Opened codec (e :: rest)

variable {c : Channel} {codec : ChannelCodec} {call : Call} {f : Framer}

/-! ### One call -/

theorem entry_error {e : Error} (framed : call.frame c.framer = .error e) :
    c.perform call = (c, .error e) ∧ c.entry call = ⟨call, .error e, []⟩ := by
  have performed : c.perform call = (c, .error e) := by rw [perform, framed]
  refine ⟨performed, ?_⟩
  rw [entry, performed, List.drop_length]

theorem entry_silent (framed : call.frame c.framer = .ok (f, none)) :
    c.perform call = (⟨f, c.sink⟩, .ok) ∧ c.entry call = ⟨call, .ok, []⟩ := by
  have performed : c.perform call = (⟨f, c.sink⟩, .ok) := by rw [perform, framed]
  refine ⟨performed, ?_⟩
  rw [entry, performed, List.drop_length]

theorem entry_bytes {bytes : Bytes} (framed : call.frame c.framer = .ok (f, some bytes)) :
    (c.perform call).1.framer = f ∧
      (c.perform call).1.sink.accepted = c.sink.accepted ++ (c.entry call).taken ∧
      (c.entry call).taken <+: bytes ∧
      ((c.entry call).reply = .ok ↔ (c.entry call).taken = bytes) := by
  obtain ⟨taken, accepted, front, whole⟩ := c.sink.write_prefix bytes
  have performed : (c.perform call).1 = ⟨f, (c.sink.write bytes).1⟩ := by rw [perform, framed]
  have mine : (c.entry call).taken = taken := by
    rw [entry, performed, accepted, List.drop_left]
  have reply : (c.entry call).reply = .ok ↔ (c.sink.write bytes).2 = .done := by
    simp only [entry, perform, framed]
    cases (c.sink.write bytes).2 <;> simp
  rw [mine, reply, performed]
  exact ⟨rfl, accepted, front, whole⟩

theorem perform_accepted (c : Channel) (call : Call) :
    (c.perform call).1.sink.accepted = c.sink.accepted ++ (c.entry call).taken := by
  match framed : call.frame c.framer with
  | .error e =>
    obtain ⟨performed, entry⟩ := entry_error framed
    rw [performed, entry, List.append_nil]
  | .ok (f, none) =>
    obtain ⟨performed, entry⟩ := entry_silent framed
    rw [performed, entry, List.append_nil]
  | .ok (f, some bytes) => exact (entry_bytes framed).2.1

/-- Before the header a call is a packet that is refused, or writes a header or a marker. -/
theorem entry_unsent (told : c.framer.codecMeta = true) (unsent : c.framer.headerSent = false)
    (call : Call) :
    (c.entry call).Refused ∧ (c.perform call).1 = c ∨
      ∃ bytes, (c.entry call).Announces c.framer.codec bytes ∧
        (c.perform call).1.framer.headerSent = true := by
  cases found : Framer.announcement? c.framer.codec call with
  | some bytes =>
    obtain ⟨framer, -, front, whole⟩ := entry_bytes (Framer.frame_unsent unsent told found)
    exact .inr ⟨bytes, ⟨found, front, whole⟩, by rw [framer]; rfl⟩
  | none =>
    cases call with
    | videoHeader | audioHeader | disable => cases found
    | packet unit =>
      obtain ⟨performed, entry⟩ := entry_error (Framer.packet_unsent unsent unit)
      rw [performed, entry]
      exact .inl ⟨⟨⟨unit, rfl⟩, rfl, rfl⟩, rfl⟩

/-- Behind the header or the marker only packets write. -/
theorem entry_sent (sent : c.framer.headerSent = true) (call : Call) :
    (c.entry call).Follows codec ∧ (c.perform call).1.framer.headerSent = true := by
  cases found : Framer.announcement? codec call with
  | some bytes =>
    obtain ⟨performed, entry⟩ := entry_silent (Framer.frame_sent sent found)
    rw [performed, entry]
    exact ⟨fun _ => ⟨rfl, rfl⟩, sent⟩
  | none =>
    refine ⟨fun opens => absurd found opens, ?_⟩
    cases call with
    | videoHeader | audioHeader | disable => cases found
    | packet unit =>
      match framed : Call.frame (.packet unit) c.framer with
      | .error e =>
        rw [(entry_error framed).1]
        exact sent
      | .ok (f, none) =>
        rw [(entry_silent framed).1]
        exact (Framer.headerSent_packet framed).trans sent
      | .ok (f, some bytes) =>
        rw [(entry_bytes framed).1]
        exact (Framer.headerSent_packet framed).trans sent

/-! ### A whole run -/

theorem accepted_after (c : Channel) (events : List Event) :
    (c.after events).sink.accepted = c.sink.accepted ++ (c.log events).flatMap (·.taken) := by
  induction events generalizing c with
  | nil => exact (List.append_nil _).symm
  | cons event events ih =>
    rw [after, List.foldl_cons, ← after, ih, log, List.flatMap_append, ← List.append_assoc]
    congr 1
    cases event with
    | call call => simp [Channel.event, perform_accepted]
    | drain | hangUp => exact (List.append_nil _).symm

theorem follows_of_sent (sent : c.framer.headerSent = true) (events : List Event) :
    ∀ e ∈ c.log events, e.Follows codec := by
  induction events generalizing c with
  | nil => exact nofun
  | cons event events ih =>
    cases event with
    | call call =>
      obtain ⟨follows, still⟩ := @entry_sent c codec sent call
      intro e member
      rcases List.mem_cons.mp member with rfl | later
      · exact follows
      · exact ih still e later
    | drain | hangUp => exact ih sent

theorem opened_of_unsent (told : c.framer.codecMeta = true) (unsent : c.framer.headerSent = false)
    (events : List Event) : Opened c.framer.codec (c.log events) := by
  induction events generalizing c with
  | nil => exact .empty
  | cons event events ih =>
    cases event with
    | call call =>
      rcases entry_unsent told unsent call with ⟨refused, same⟩ | ⟨bytes, announces, sent⟩
      · have rest : Opened c.framer.codec ((c.perform call).1.log events) := by
          rw [same]
          exact ih told unsent
        exact .early refused rest
      · exact .opening announces (follows_of_sent sent events)
    | drain n => exact ih (c := ⟨c.framer, c.sink.drain n⟩) told unsent
    | hangUp e => exact ih (c := ⟨c.framer, c.sink.breakWith e⟩) told unsent

/-- What has written something that is no packet was the first to write, and only packets follow. -/
theorem Opened.first {early rest : List Entry} {e : Entry} {bytes : Bytes}
    (opened : Opened codec (early ++ e :: rest))
    (opens : Framer.announcement? codec e.call = some bytes) (wrote : e.taken ≠ []) :
    (∀ before ∈ early, before.taken = []) ∧ ∀ later ∈ rest, later.Follows codec := by
  induction early with
  | nil =>
    cases opened with
    | early refused => exact absurd refused.taken wrote
    | opening announces follow => exact ⟨nofun, follow⟩
  | cons before early ih =>
    cases opened with
    | early refused opened =>
      obtain ⟨silent, follow⟩ := ih opened
      exact ⟨List.forall_mem_cons.mpr ⟨refused.taken, silent⟩, follow⟩
    | opening announces follow =>
      have silent := follow e (by simp) (by simp [opens])
      exact absurd silent.2 wrote

/-- At most one header or marker is written, before all else; and if no packet comes behind a
marker, nothing does. -/
theorem opened_of_events (codec : ChannelCodec) (framed : Bool) (sink : Sink)
    (events : List Event) :
    let c : Channel := ⟨.fresh codec framed, sink⟩
    Opened codec (c.log events) ∧
      (c.after events).sink.accepted = sink.accepted ++ (c.log events).flatMap (·.taken) ∧
      ∀ early marker rest isError, c.log events = early ++ marker :: rest →
        marker.call = .disable isError → marker.taken ≠ [] →
        (∀ later ∈ rest, ∀ unit, later.call ≠ .packet unit) →
        (c.after events).sink.accepted = sink.accepted ++ marker.taken := by
  intro c
  have opened : Opened codec (c.log events) := opened_of_unsent (c := c) rfl rfl events
  have accepted := c.accepted_after events
  refine ⟨opened, accepted, fun early marker rest isError split marks wrote idle => ?_⟩
  rw [split] at opened
  have opens : Framer.announcement? codec marker.call =
      some (if isError then Framer.errorMarker else Framer.disabledMarker) := by rw [marks]; rfl
  obtain ⟨before, follow⟩ := opened.first opens wrote
  have after : ∀ later ∈ rest, later.taken = [] := by
    intro later member
    refine (follow later member ?_).2
    cases call : later.call with
    | videoHeader | audioHeader | disable => nofun
    | packet unit => exact absurd call (idle later member unit)
  rw [accepted, split, List.flatMap_append, List.flatMap_cons, List.flatMap_eq_nil_iff.mpr before,
    List.flatMap_eq_nil_iff.mpr after, List.nil_append, List.append_nil]

/-- A packet comes too early, the marker is cut off and a header too late, although there is room
for it by then. -/
theorem opened_of_events_cut_off :
    let c : Channel := ⟨.fresh (.audio .opus) true, { limit := some 3 }⟩
    let events : List Event :=
      [.call (.packet ⟨[7], 0, .none⟩), .call (.disable true), .drain 100, .call .audioHeader]
    (c.after events).sink.accepted = [0, 0, 0] := by
  intro c events
  have entries : c.log events =
      [⟨.packet ⟨[7], 0, .none⟩, .error (.configuration .packetBeforeHeader), []⟩] ++
        ⟨.disable true, .pending, [0, 0, 0]⟩ :: [⟨.audioHeader, .ok, []⟩] := by decide +kernel
  exact (opened_of_events (.audio .opus) true { limit := some 3 } events).2.2 _ _ _ true entries
    rfl (by decide) (by simp)

/-- A packet is written behind the marker as it would be behind a header. -/
theorem written_behind_marker :
    let c : Channel := ⟨.fresh (.audio .opus) true, {}⟩
    c.log [.call (.disable true), .call (.packet ⟨[7], 0, .none⟩)] =
      [ ⟨.disable true, .ok, Framer.errorMarker⟩
      , ⟨.packet ⟨[7], 0, .none⟩, .ok, Packet.frameMeta 0 1 ++ [7]⟩ ] := by
  decide +kernel

end Channel

end Screencast
