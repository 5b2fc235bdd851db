import Screencast.Proofs.Stream.Frames
import Screencast.Proofs.Stream.Open

/-!
How a stream channel begins when it carries codec meta: with a header, which only packets may
follow, or with a marker and nothing else (`Framer.Announced`). What is written behind the header is
kept as the calls that packed it, so the frames may be of either kind, with or without frame meta.
-/

namespace Screencast.Framer

/-- A framer that has written nothing, and will write codec meta. -/
def fresh (codec : ChannelCodec) (framed : Bool) : Framer := { codec, frameMeta := framed }

/-- A framer whose header is written, or is on its way. -/
def begun (f : Framer) : Framer := { f with headerSent := true }

/-- The bytes of packets, one after the other, and the framer that has written them. -/
inductive Packets (f : Framer) : Framer → Bytes → Prop
  | none : Packets f f []
  | more {before after : Framer} {written : Bytes} {unit : AccessUnit} {output : Output}
      (packets : Packets f before written) (packed : before.packet unit = .ok (after, output)) :
      Packets f after (written ++ output.getD [])

/-- The sink has taken a header of one of these kinds, with packets behind it, on top of `base`; and
this framer has written them. -/
def Headed (start : Framer) (opens : Bytes → Prop) (base : Bytes) (f : Framer) (accepted : Bytes) :
    Prop :=
  ∃ header packets, opens header ∧ start.begun.Packets f packets ∧
    accepted = base ++ header ++ packets

/-- What the sink has taken on top of `base` tells what will come: a header begins the stream, and a
marker is all there is. `refused` says that the stream cannot be had here, which is not an error. -/
inductive Announced (start : Framer) (opens : Bytes → Prop) (refused : Bool)
    (base accepted : Bytes) : Prop
  | headed {f : Framer} (able : refused = false) (headed : start.Headed opens base f accepted)
  | marked (mark : accepted = base ++ if refused then disabledMarker else errorMarker)

variable {start f : Framer} {opens : Bytes → Prop} {base accepted written : Bytes}

theorem Packets.headerSent (packets : start.Packets f written) :
    f.headerSent = start.headerSent := by
  induction packets with
  | none => rfl
  | more before packed ih => rw [headerSent_packet packed, ih]

namespace Headed

theorem header {header : Bytes} (opening : opens header) :
    start.Headed opens base start.begun (base ++ header) :=
  ⟨header, [], opening, .none, (List.append_nil _).symm⟩

theorem packet {after : Framer} {unit : AccessUnit} {output : Output}
    (headed : start.Headed opens base f accepted) (packed : f.packet unit = .ok (after, output)) :
    start.Headed opens base after (accepted ++ output.getD []) := by
  obtain ⟨header, packets, opening, before, rfl⟩ := headed
  exact ⟨header, _, opening, before.more packed, List.append_assoc ..⟩

/-- A unit that leaves nothing to be written. -/
theorem silent {after : Framer} {unit : AccessUnit} (headed : start.Headed opens base f accepted)
    (packed : f.packet unit = .ok (after, none)) : start.Headed opens base after accepted := by
  have same := headed.packet packed
  rwa [Option.getD_none, List.append_nil] at same

theorem sent (headed : start.Headed opens base f accepted) : f.headerSent = true := by
  obtain ⟨header, packets, -, before, -⟩ := headed
  exact before.headerSent

end Headed

theorem videoHeader_fresh (codec : VideoCodec) (framed : Bool) (size : Size) :
    (fresh (.video codec) framed).videoHeader size =
      ((fresh (.video codec) framed).begun, some (codec.header size)) := by
  simp [fresh, begun, videoHeader, header, opening, VideoCodec.header]

theorem audioHeader_fresh (codec : AudioCodec) (framed : Bool) :
    (fresh (.audio codec) framed).audioHeader =
      ((fresh (.audio codec) framed).begun, some codec.header) := by
  simp [fresh, begun, audioHeader, header, opening, AudioCodec.header]

theorem disable_fresh (codec : ChannelCodec) (framed isError : Bool) :
    (fresh codec framed).disable isError =
      ((fresh codec framed).begun, some (if isError then errorMarker else disabledMarker)) := rfl

end Screencast.Framer
