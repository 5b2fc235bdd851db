import Screencast.Proofs.Stream.Playback

/-!
The frames of a list of units, in closed form. A framer that has written a header and some units
adds the frame of the next unit (`packet_after`), whatever part of the list comes first.
-/

namespace Screencast

open AccessUnit (media origin)

namespace AccessUnit

/-- The word in front of a unit when timestamps count from `start`. -/
def word (start : Nat) (unit : AccessUnit) : Nat :=
  if unit.flags.isConfig then Packet.configBit
  else (if unit.flags.isKeyFrame then Packet.keyFrameBit else 0) +
    (unit.pts - start) % Packet.keyFrameBit

def frame (start : Nat) (unit : AccessUnit) : Bytes :=
  Packet.frameMeta (unit.word start) unit.data.length ++ unit.data

def frames (units : List AccessUnit) : Bytes := units.flatMap (frame (origin units))

theorem frame_config {unit : AccessUnit} (h : unit.flags.isConfig = true) (a b : Nat) :
    unit.frame a = unit.frame b := by
  simp [frame, word, h]

/-- Where timestamps count from if nothing before has settled it. -/
def originOr (units : List AccessUnit) (pts : Nat) : Nat :=
  ((media units).head?.map (·.pts)).getD pts

theorem frames_snoc (units : List AccessUnit) (unit : AccessUnit) :
    frames (units ++ [unit]) = frames units ++ unit.frame (originOr units unit.pts) := by
  simp only [frames, List.flatMap_append, List.flatMap_singleton]
  cases first : media units with
  | nil =>
    -- all units before are configuration, and their frames do not depend on where time starts
    have before : units.flatMap (frame (origin (units ++ [unit]))) =
        units.flatMap (frame (origin units)) := by
      rw [List.flatMap_def, List.flatMap_def]
      refine congrArg List.flatten (List.map_congr_left fun u member => ?_)
      have config : u.flags.isConfig = true := by
        have dropped := List.filter_eq_nil_iff.mp first u member
        simpa using dropped
      exact frame_config config _ _
    have last : unit.frame (origin (units ++ [unit])) = unit.frame (originOr units unit.pts) := by
      cases config : unit.flags.isConfig with
      | true => exact frame_config config _ _
      | false =>
        have media : media (units ++ [unit]) = [unit] := by
          rw [media, List.filter_append, ← media, first]
          simp [config]
        simp [origin, originOr, media, first]
    rw [before, last]
  | cons u rest =>
    have media : media (units ++ [unit]) = u :: (rest ++ media [unit]) := by
      rw [media, List.filter_append, ← media, first]
      rfl
    simp [origin, originOr, media, first]

end AccessUnit

namespace Framer

/-- A framer that has written a header, and then these units. -/
def after (f : Framer) (units : List AccessUnit) : Framer :=
  { f with headerSent := true, origin := (media units).head?.map (·.pts) }

theorem word_after (f : Framer) (units : List AccessUnit) (unit : AccessUnit) :
    (f.after units).word unit =
      (f.after (units ++ [unit]), unit.word (AccessUnit.originOr units unit.pts)) := by
  cases config : unit.flags.isConfig with
  | true => simp [Framer.word, AccessUnit.word, after, media, config]
  | false =>
    cases first : media units with
    | nil =>
      have none : units.filter (!·.flags.isConfig) = [] := first
      simp [Framer.word, AccessUnit.word, AccessUnit.originOr, after, media, config, none]
    | cons u rest =>
      have some : units.filter (!·.flags.isConfig) = u :: rest := first
      simp [Framer.word, AccessUnit.word, AccessUnit.originOr, after, media, config, some]

/-- Another unit adds its frame. -/
theorem packet_after {f : Framer} (framed : f.frameMeta = true) (units : List AccessUnit)
    (unit : AccessUnit) :
    ∃ bytes, (f.after units).packet unit = .ok (f.after (units ++ [unit]), some bytes) ∧
      AccessUnit.frames (units ++ [unit]) = AccessUnit.frames units ++ bytes := by
  refine ⟨unit.frame (AccessUnit.originOr units unit.pts), ?_, AccessUnit.frames_snoc units unit⟩
  have sent : (f.after units).headerSent = true := rfl
  have frames : (f.after units).frameMeta = true := framed
  simp [packet, sent, frames, word_after, AccessUnit.frame]

/-- The word that a framer puts in front of a unit, once it is settled where timestamps
count from. -/
theorem word_of_origin {f : Framer} {start : Nat} (settled : f.origin = some start)
    (unit : AccessUnit) : (f.word unit).2 = unit.word start := by
  unfold Framer.word AccessUnit.word
  split <;> simp [settled]

/-- A framer for pictures that has written a header, and then these units. -/
def opened (codec : VideoCodec) (units : List AccessUnit) : Framer :=
  { codec := .video codec, headerSent := true, origin := (media units).head?.map (·.pts) }

theorem packet_opened (codec : VideoCodec) (units : List AccessUnit) (unit : AccessUnit) :
    ∃ bytes, (opened codec units).packet unit = .ok (opened codec (units ++ [unit]), some bytes) ∧
      AccessUnit.frames (units ++ [unit]) = AccessUnit.frames units ++ bytes :=
  packet_after (f := { codec := .video codec }) rfl units unit

theorem headerSent_word (f : Framer) (unit : AccessUnit) :
    (f.word unit).1.headerSent = f.headerSent := by
  unfold Framer.word
  split <;> rfl

theorem headerSent_adtsPacket {f f' : Framer} {unit : AccessUnit} {output : Output}
    (h : f.adtsPacket unit = .ok (f', output)) : f'.headerSent = f.headerSent := by
  unfold adtsPacket at h
  split at h
  · cases h
    rfl
  · split at h <;> cases h
    rfl

/-- Packets come after the header and leave it at that. -/
theorem headerSent_packet {f f' : Framer} {unit : AccessUnit} {output : Output}
    (h : f.packet unit = .ok (f', output)) : f'.headerSent = f.headerSent := by
  unfold packet at h
  split at h
  · cases h
  · split at h
    · exact headerSent_adtsPacket h
    · split at h <;> cases h
      · exact f.headerSent_word unit
      · rfl

/-- A header is opened once. -/
theorem videoHeader_of_sent {f : Framer} (sent : f.headerSent = true) (size : Size) :
    f.videoHeader size = (f, none) := by
  simp [videoHeader, header, opening, sent]

end Framer

/-- The header that announces pictures of a size. -/
def VideoCodec.header (codec : VideoCodec) (size : Size) : Bytes :=
  Bytes.ofNat 4 (ChannelCodec.video codec).id ++ Bytes.ofNat 4 8 ++
    (Bytes.ofNat 4 size.width ++ Bytes.ofNat 4 size.height)

theorem Framer.videoHeader_start (codec : VideoCodec) (size : Size) :
    Framer.videoHeader { codec := .video codec } size =
      (.opened codec [], some (codec.header size)) := by
  simp [videoHeader, header, opening, opened, media, VideoCodec.header]

/-- The frames of a list of units are read back one by one. -/
theorem AccessUnit.items?_frames {units : List AccessUnit} (start : Nat)
    (short : ∀ unit ∈ units, unit.data.length < 2 ^ 32) :
    Bytes.items? Received.read? (units.flatMap (frame start)) =
      some (units.map (.ofUnit start)) := by
  induction units with
  | nil => exact Bytes.items?_nil _
  | cons unit units ih =>
    -- any framer that counts from `start` puts this word in front of the unit
    have word := Framer.word_of_origin (f := { codec := default, origin := some start }) rfl unit
    have fits : unit.word start < 2 ^ 64 := word ▸ Framer.word_lt _ unit
    have same : Received.ofWord (unit.word start) unit.data = .ofUnit start unit :=
      word ▸ Framer.ofWord_word _ unit []
    rw [List.flatMap_cons, frame, Received.items?_frame fits (short unit (.head _)),
      ih fun u member => short u (.tail _ member), same]
    rfl

/-- The header that announces sound. -/
def AudioCodec.header (codec : AudioCodec) : Bytes :=
  Bytes.ofNat 4 (ChannelCodec.audio codec).id ++ Bytes.ofNat 4 0

theorem Framer.audioHeader_start (codec : AudioCodec) :
    Framer.audioHeader { codec := .audio codec } =
      (.after { codec := .audio codec } [], some codec.header) := by
  simp [audioHeader, header, opening, after, media, AudioCodec.header]

end Screencast
