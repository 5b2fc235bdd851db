import Mathlib.Data.Nat.Bitwise
import Screencast.Proofs.Bytes
import Screencast.Proofs.Stream.Open

/-!
A stream as the desktop reads it: a header, then one packet after the other until the bytes end.
What is written for any list of units is read back as these units, with timestamps that count from
the first one that is not configuration (`read_written`).
-/

namespace Screencast

open Channel (Call Reply)

namespace AccessUnit

/-- The units that are not configuration. -/
def media (units : List AccessUnit) : List AccessUnit := units.filter (!·.flags.isConfig)

/-- Where timestamps count from. -/
def origin (units : List AccessUnit) : Nat := ((media units).head?.map (·.pts)).getD 0

theorem origin_config {unit : AccessUnit} (h : unit.flags.isConfig = true)
    (units : List AccessUnit) : origin (unit :: units) = origin units := by
  simp [origin, media, h]

theorem origin_media {unit : AccessUnit} (h : unit.flags.isConfig = false)
    (units : List AccessUnit) : origin (unit :: units) = unit.pts := by
  simp [origin, media, h]

end AccessUnit

open AccessUnit (media origin)

/-- A packet as it is read. -/
structure Received where
  config : Bool
  key : Bool
  timestamp : Nat
  payload : Bytes
deriving DecidableEq, Repr

namespace Received

/-- A unit as it is to be read when timestamps count from `start`. -/
def ofUnit (start : Nat) (unit : AccessUnit) : Received where
  config := unit.flags.isConfig
  key := !unit.flags.isConfig && unit.flags.isKeyFrame
  timestamp := if unit.flags.isConfig then 0 else (unit.pts - start) % 2 ^ 62
  payload := unit.data

def ofWord (word : Nat) (payload : Bytes) : Received :=
  ⟨word.testBit 63, word.testBit 62, word % 2 ^ 62, payload⟩

theorem ofWord_config (payload : Bytes) :
    ofWord Packet.configBit payload = ⟨true, false, 0, payload⟩ := rfl

theorem ofWord_media (key : Bool) (n : Nat) (payload : Bytes) :
    ofWord ((if key then Packet.keyFrameBit else 0) + n % Packet.keyFrameBit) payload =
      ⟨false, key, n % 2 ^ 62, payload⟩ := by
  have bit : Packet.keyFrameBit = 2 ^ 62 := rfl
  have small : n % 2 ^ 62 < 2 ^ 62 := Nat.mod_lt n (by simp)
  rw [bit]
  cases key with
  | true =>
    have top : (2 ^ 62 + n % 2 ^ 62).testBit 63 = false := Nat.testBit_lt_two_pow (by omega)
    have set : (2 ^ 62 + n % 2 ^ 62).testBit 62 = true := by
      rw [Nat.testBit_two_pow_add_eq, Nat.testBit_lt_two_pow small]
      rfl
    simp only [ofWord, ↓reduceIte, top, set, Nat.add_mod_left, Nat.mod_mod]
  | false =>
    have top : (n % 2 ^ 62).testBit 63 = false := Nat.testBit_lt_two_pow (by omega)
    have clear : (n % 2 ^ 62).testBit 62 = false := Nat.testBit_lt_two_pow small
    simp only [ofWord, Bool.false_eq_true, ↓reduceIte, Nat.zero_add, top, clear, Nat.mod_mod]

/-- The packet at the front, and what follows it. -/
def read? (bytes : Bytes) : Option (Received × Bytes) := do
  let (word, bytes) ← bytes.word? 8
  let (length, bytes) ← bytes.word? 4
  let (payload, bytes) ← bytes.split? length
  return (ofWord word payload, bytes)

theorem read?_frame {word : Nat} {payload : Bytes} (fits : word < 2 ^ 64)
    (short : payload.length < 2 ^ 32) (rest : Bytes) :
    read? (Packet.frameMeta word payload.length ++ payload ++ rest) =
      some (ofWord word payload, rest) := by
  have front := Bytes.word?_ofNat (show word < 256 ^ 8 by omega)
  have length := Bytes.word?_ofNat (show payload.length < 256 ^ 4 by omega)
  simp only [read?, Packet.frameMeta, List.append_assoc, front, length, Bytes.split?_append,
    Option.bind_eq_bind, Option.bind_some, Option.pure_def]

theorem items?_frame {word : Nat} {payload : Bytes} (fits : word < 2 ^ 64)
    (short : payload.length < 2 ^ 32) (rest : Bytes) :
    Bytes.items? read? (Packet.frameMeta word payload.length ++ payload ++ rest) =
      (Bytes.items? read? rest).map (ofWord word payload :: ·) := by
  apply Bytes.items?_of_item (read?_frame fits short rest)
  simp only [Packet.frameMeta, List.length_append, Bytes.length_ofNat]
  omega

end Received

namespace Framer

/-- Where the timestamps of a framer count from, with these units to come. -/
def start (f : Framer) (units : List AccessUnit) : Nat := f.origin.getD (AccessUnit.origin units)

theorem start_word (f : Framer) (unit : AccessUnit) (units : List AccessUnit) :
    (f.word unit).1.start units = f.start (unit :: units) := by
  cases config : unit.flags.isConfig with
  | true => simp [word, start, config, AccessUnit.origin_config]
  | false => simp [word, start, config, AccessUnit.origin_media]

theorem word_lt (f : Framer) (unit : AccessUnit) : (f.word unit).2 < 2 ^ 64 := by
  simp only [word, Packet.configBit, Packet.keyFrameBit]
  split
  · simp
  · have := Nat.mod_lt (unit.pts - f.origin.getD unit.pts) (show 0 < 2 ^ 62 by simp)
    dsimp only
    split <;> omega

theorem ofWord_word (f : Framer) (unit : AccessUnit) (units : List AccessUnit) :
    Received.ofWord (f.word unit).2 unit.data = .ofUnit (f.start (unit :: units)) unit := by
  cases config : unit.flags.isConfig with
  | true =>
    simp only [word, config, ↓reduceIte, Received.ofWord_config, Received.ofUnit, Bool.not_true,
      Bool.false_and]
  | false =>
    simp only [word, config, Bool.false_eq_true, ↓reduceIte, Received.ofWord_media,
      Received.ofUnit, Bool.not_false, Bool.true_and, start, AccessUnit.origin_media config]

/-- The header is out, and each unit follows its timestamp and length. -/
structure Framed (f : Framer) : Prop where
  headerSent : f.headerSent = true
  frameMeta : f.frameMeta = true

namespace Framed

variable {f : Framer}

theorem word (h : f.Framed) (unit : AccessUnit) : (f.word unit).1.Framed := by
  unfold Framer.word
  split
  · exact h
  · exact ⟨h.headerSent, h.frameMeta⟩

theorem step (h : f.Framed) (unit : AccessUnit) :
    f.step (.packet unit) =
      ((f.word unit).1, Packet.frameMeta (f.word unit).2 unit.data.length ++ unit.data, .ok) := by
  simp [Framer.step, Call.frame, packet, h.headerSent, h.frameMeta]

/-- Whatever units come, they are read back. -/
theorem run (h : f.Framed) {units : List AccessUnit}
    (short : ∀ unit ∈ units, unit.data.length < 2 ^ 32) :
    (f.run (units.map .packet)).2.2 = List.replicate units.length .ok ∧
      Bytes.items? Received.read? (f.run (units.map .packet)).2.1 =
        some (units.map (.ofUnit (f.start units))) := by
  induction units generalizing f with
  | nil => exact ⟨rfl, Bytes.items?_nil _⟩
  | cons unit units ih =>
    obtain ⟨replies, items⟩ := ih (h.word unit) fun u hu => short u (.tail _ hu)
    rw [start_word] at items
    simp only [List.map_cons, Framer.run, h.step]
    constructor
    · rw [replies, List.length_cons, List.replicate_succ]
    · rw [Received.items?_frame (f.word_lt unit) (short unit (.head _)), items, ofWord_word,
        Option.map_some]

end Framed

end Framer

/-- A stream as it is read. -/
structure Playback where
  codec : Nat
  size : Option Size
  packets : List Received
deriving DecidableEq, Repr

namespace Playback

/-- The size in a header that announces one. -/
def size? (about : Bytes) : Option Size :=
  match about.word? 4 with
  | none => none
  | some (width, about) =>
    match about.word? 4 with
    | some (height, []) => some ⟨width, height⟩
    | _ => none

/-- A header, and packets to the end. -/
def read? (bytes : Bytes) : Option Playback := do
  let (codec, bytes) ← bytes.word? 4
  let (length, bytes) ← bytes.word? 4
  let (about, bytes) ← bytes.split? length
  let packets ← bytes.items? Received.read?
  return ⟨codec, size? about, packets⟩

theorem read?_header {codec : Nat} {about rest : Bytes} {packets : List Received}
    (known : codec < 2 ^ 32) (short : about.length < 2 ^ 32)
    (h : Bytes.items? Received.read? rest = some packets) :
    read? (Bytes.ofNat 4 codec ++ Bytes.ofNat 4 about.length ++ about ++ rest) =
      some ⟨codec, size? about, packets⟩ := by
  have front := Bytes.word?_ofNat (show codec < 256 ^ 4 by omega)
  have length := Bytes.word?_ofNat (show about.length < 256 ^ 4 by omega)
  simp only [read?, List.append_assoc, front, length, Bytes.split?_append, h,
    Option.bind_eq_bind, Option.bind_some, Option.pure_def]

theorem size?_of_words {size : Size} (width : size.width < 2 ^ 32) (height : size.height < 2 ^ 32) :
    size? (Bytes.ofNat 4 size.width ++ Bytes.ofNat 4 size.height) = some size := by
  have first := Bytes.word?_ofNat (show size.width < 256 ^ 4 by omega)
  have second := Bytes.word?_ofNat (show size.height < 256 ^ 4 by omega) []
  rw [List.append_nil] at second
  simp only [size?, first, second]

/-- The timestamps of sound and pictures. -/
def timestamps (p : Playback) : List Nat := (p.packets.filter (!·.config)).map (·.timestamp)

theorem timestamps_ofUnit {p : Playback} {start : Nat} {units : List AccessUnit}
    (h : p.packets = units.map (.ofUnit start)) :
    p.timestamps = (media units).map fun unit => (unit.pts - start) % 2 ^ 62 := by
  have kept : p.packets.filter (!·.config) = (media units).map (.ofUnit start) := by
    rw [h, List.filter_map]
    rfl
  rw [timestamps, kept, List.map_map]
  apply List.map_congr_left
  intro unit found
  have config : unit.flags.isConfig = false := by simpa using (List.mem_filter.mp found).2
  simp [Received.ofUnit, config]

/-- Without a step back, and less than `2 ^ 62` from the first, no timestamp wraps around. -/
theorem timestamps_rising {p : Playback} {units : List AccessUnit}
    (h : p.packets = units.map (.ofUnit (origin units)))
    (rising : ((media units).map (·.pts)).Pairwise (· ≤ ·))
    (near : ∀ unit ∈ media units, unit.pts < origin units + 2 ^ 62) :
    (∀ t ∈ p.timestamps.head?, t = 0) ∧ p.timestamps.Pairwise (· ≤ ·) := by
  have elapsed : p.timestamps = (media units).map fun unit => unit.pts - origin units := by
    rw [timestamps_ofUnit h]
    apply List.map_congr_left
    intro unit found
    have := near unit found
    exact Nat.mod_eq_of_lt (by omega)
  rw [elapsed]
  constructor
  · cases first : media units <;> simp [origin, first]
  · rw [List.pairwise_map] at rising ⊢
    exact rising.imp fun le => Nat.sub_le_sub_right le _

end Playback

theorem ChannelCodec.id_lt (codec : ChannelCodec) : codec.id < 2 ^ 32 := by
  cases codec with
  | video codec => cases codec <;> decide
  | audio codec => cases codec <;> decide

namespace Channel

/-- The call that opens a stream of pictures of some size, or of sound. -/
def Call.opening : Option Size → Call
  | some size => videoHeader size
  | none => audioHeader

/-- The first call writes a header, from which the announced size is read back. -/
theorem step_opening (codec : ChannelCodec) (announced : Option Size)
    (sides : ∀ size ∈ announced, size.width < 2 ^ 32 ∧ size.height < 2 ^ 32) :
    ∃ about : Bytes, about.length < 2 ^ 32 ∧ Playback.size? about = announced ∧
      Framer.step { codec } (.opening announced) = ({ codec, headerSent := true },
        Bytes.ofNat 4 codec.id ++ Bytes.ofNat 4 about.length ++ about, .ok) := by
  cases announced with
  | none => exact ⟨[], by simp, rfl, rfl⟩
  | some size =>
    obtain ⟨width, height⟩ := sides size rfl
    exact ⟨_, by simp, Playback.size?_of_words width height, rfl⟩

/-- Whatever units follow the header, they are read back from what is written. -/
theorem read_written (codec : ChannelCodec) (announced : Option Size) (units : List AccessUnit)
    (sink : Sink) (opened : sink.Open)
    (sides : ∀ size ∈ announced, size.width < 2 ^ 32 ∧ size.height < 2 ^ 32)
    (short : ∀ unit ∈ units, unit.data.length < 2 ^ 32) :
    ∃ (after : Channel) (written : Bytes) (playback : Playback),
      run ⟨{ codec, codecMeta := true, frameMeta := true }, sink⟩
          (.opening announced :: units.map .packet) =
        (after, List.replicate (units.length + 1) .ok) ∧
      after.sink.accepted = sink.accepted ++ written ∧
      Playback.read? written = some playback ∧
      playback.codec = codec.id ∧ playback.size = announced ∧
      playback.packets = units.map (.ofUnit (origin units)) ∧
      (((media units).map (·.pts)).Pairwise (· ≤ ·) →
        (∀ unit ∈ media units, unit.pts < origin units + 2 ^ 62) →
        (∀ t ∈ playback.timestamps.head?, t = 0) ∧ playback.timestamps.Pairwise (· ≤ ·)) := by
  obtain ⟨about, length, size, header⟩ := step_opening codec announced sides
  have framed : Framer.Framed { codec, headerSent := true } := ⟨rfl, rfl⟩
  obtain ⟨replies, items⟩ := framed.run short
  obtain ⟨after, ran, -, -, accepted⟩ :=
    run_open (c := ⟨{ codec }, sink⟩) opened (.opening announced :: units.map .packet)
  simp only [Framer.run, header] at accepted ran
  refine ⟨after, _, ⟨codec.id, announced, units.map (.ofUnit (origin units))⟩, ?_, accepted, ?_,
    rfl, rfl, rfl, Playback.timestamps_rising rfl⟩
  · rw [ran, replies, List.replicate_succ]
  · rw [Playback.read?_header codec.id_lt length items, size]
    rfl

/-- Configuration before and between the pictures leaves their timestamps alone. -/
theorem read_written_between_configs :
    ∃ (after : Channel) (written : Bytes) (playback : Playback),
      run ⟨{ codec := .video .h264, codecMeta := true, frameMeta := true }, {}⟩
        [.videoHeader ⟨1080, 2400⟩, .packet ⟨[1, 2, 3], 7, .config⟩,
          .packet ⟨[4], 1000000, .keyFrame⟩, .packet ⟨[], 1000001, ⟨3⟩⟩,
          .packet ⟨[5, 6], 1016666, .none⟩] = (after, [.ok, .ok, .ok, .ok, .ok]) ∧
      after.sink.accepted = written ∧ Playback.read? written = some playback ∧
      playback = ⟨0x68323634, some ⟨1080, 2400⟩,
        [⟨true, false, 0, [1, 2, 3]⟩, ⟨false, true, 0, [4]⟩, ⟨true, false, 0, []⟩,
          ⟨false, false, 16666, [5, 6]⟩]⟩ ∧
      playback.timestamps.Pairwise (· ≤ ·) := by
  obtain ⟨after, written, ⟨id, size, packets⟩, ran, accepted, read, rfl, rfl, rfl, rising⟩ :=
    read_written (.video .h264) (some ⟨1080, 2400⟩)
      [⟨[1, 2, 3], 7, .config⟩, ⟨[4], 1000000, .keyFrame⟩, ⟨[], 1000001, ⟨3⟩⟩,
        ⟨[5, 6], 1016666, .none⟩] {} ⟨by simp, rfl, rfl⟩ (by simp) (by simp)
  exact ⟨after, written, _, ran, accepted, read, by decide, (rising (by decide) (by decide)).2⟩

end Channel

end Screencast
