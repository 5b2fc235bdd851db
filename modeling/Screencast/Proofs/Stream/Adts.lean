import Screencast.Proofs.Stream.Playback

/-!
AAC as a reader without frame meta finds it. The reader knows the fields of an ADTS header, checks
the sync word, and skips from frame to frame by the lengths (`Adts.Frame.read?`). It gets back the
payload of every unit that is not configuration and fits a frame (`read_adts`).
-/

namespace Screencast

namespace Adts

/-- The `width` bits of a word above the lowest `low` ones. -/
def field (word low width : Nat) : Nat := word / 2 ^ low % 2 ^ width

structure Frame where
  profile : Nat
  /-- An index into the table of sampling rates. -/
  rate : Nat
  channels : Nat
  payload : Bytes
deriving DecidableEq, Repr

/-- The profile of AAC-LC. -/
def lowComplexity : Nat := 1

/-- The frame at the front, and what follows it. The fields of a header are, from the top: the sync
word (12 bits), the version (1), the layer (2), a set bit if there is no checksum (1), the profile
(2), the rate (4), a private bit, the channels (3), four bits about copyright, the length of header
and payload together (13), the fullness of the buffer (11) and the number of further blocks (2). -/
def Frame.read? (bytes : Bytes) : Option (Frame × Bytes) :=
  match bytes.word? headerSize with
  | none => none
  | some (word, bytes) =>
    if field word 44 12 = 0xfff ∧ field word 40 1 = 1 then
      (bytes.split? (field word 13 13 - headerSize)).map fun (payload, bytes) =>
        (⟨field word 38 2, field word 34 4, field word 30 3, payload⟩, bytes)
    else none

/-- The word that a header spells. -/
def headerWord (rate channels length : Nat) : Nat :=
  0xfff14000001ffc + rate * 2 ^ 34 + channels * 2 ^ 30 + length * 2 ^ 13

variable {rate channels length : Nat}

theorem headerBytes_eq (known : rate < 16) (few : channels < 8) (fits : length < 2 ^ 13) :
    (headerBytes rate channels length).map UInt8.ofNat =
      Bytes.ofNat headerSize (headerWord rate channels length) := by
  have spelled : Bytes.toNat ((headerBytes rate channels length).map UInt8.ofNat) =
      headerWord rate channels length := by
    simp only [headerBytes, headerWord, Bytes.toNat, List.map_cons, List.map_nil, List.foldl_cons,
      List.foldl_nil, UInt8.toNat_ofNat']
    omega
  rw [← spelled]
  exact (Bytes.ofNat_toNat _).symm

theorem headerWord_lt (known : rate < 16) (few : channels < 8) (fits : length < 2 ^ 13) :
    headerWord rate channels length < 256 ^ headerSize := by
  simp only [headerWord, headerSize]
  omega

/-- No field of a header runs into the next one. -/
theorem fields_headerWord (known : rate < 16) (few : channels < 8) (fits : length < 2 ^ 13) :
    field (headerWord rate channels length) 44 12 = 0xfff ∧
    field (headerWord rate channels length) 40 1 = 1 ∧
    field (headerWord rate channels length) 38 2 = lowComplexity ∧
    field (headerWord rate channels length) 34 4 = rate ∧
    field (headerWord rate channels length) 30 3 = channels ∧
    field (headerWord rate channels length) 13 13 = length := by
  simp only [field, headerWord, lowComplexity]
  refine ⟨?_, ?_, ?_, ?_, ?_, ?_⟩ <;> omega

theorem lt_of_idxOf? {sampleRate : Nat} (known : rateTable.idxOf? sampleRate = some rate) :
    rate < 16 := by
  obtain ⟨inside, -⟩ := List.findIdx?_eq_some_iff_getElem.mp known
  exact Nat.lt_of_lt_of_le inside (by decide)

theorem header?_eq {sampleRate payload : Nat} (known : rateTable.idxOf? sampleRate = some rate)
    (few : channels < 8) :
    header? payload sampleRate channels =
      if payload + headerSize < 2 ^ 13 then
        some (Bytes.ofNat headerSize (headerWord rate channels (payload + headerSize)))
      else none := by
  simp only [header?, known]
  by_cases fits : payload + headerSize < 2 ^ 13
  · rw [if_pos fits, if_neg (by omega), headerBytes_eq (lt_of_idxOf? known) few fits]
  · rw [if_neg fits, if_pos (by omega)]

/-- Whatever rate and channels a header is for, the frame behind it is read back. -/
theorem Frame.read?_header {sampleRate : Nat} {header payload : Bytes}
    (known : rateTable.idxOf? sampleRate = some rate) (few : channels < 8)
    (h : header? payload.length sampleRate channels = some header) (rest : Bytes) :
    read? (header ++ payload ++ rest) =
      some (⟨lowComplexity, rate, channels, payload⟩, rest) := by
  rw [header?_eq known few] at h
  split at h
  · rename_i fits
    cases h
    have small := lt_of_idxOf? known
    have front := Bytes.word?_ofNat (headerWord_lt small few fits) (payload ++ rest)
    obtain ⟨sync, bare, profile, index, count, whole⟩ := fields_headerWord small few fits
    have back : Bytes.split? payload.length (payload ++ rest) = some (payload, rest) :=
      Bytes.split?_append payload rest
    simp only [read?, List.append_assoc, front, sync, bare, profile, index, count, whole,
      Nat.add_sub_cancel, back, and_self, ↓reduceIte, Option.map_some]
  · cases h

theorem header?_length {sampleRate payload : Nat} {header : Bytes}
    (known : rateTable.idxOf? sampleRate = some rate) (few : channels < 8)
    (h : header? payload sampleRate channels = some header) : header.length = headerSize := by
  rw [header?_eq known few] at h
  split at h
  · cases h
    exact Bytes.length_ofNat _ _
  · cases h

/-- The longest payload that fits a frame. -/
def maxPayload : Nat := 8184

/-- The frame that carries a unit of sound as it is captured. -/
def Frame.ofUnit (unit : AccessUnit) : Frame := ⟨lowComplexity, 3, 2, unit.data⟩

theorem header?_audioFormat (payload : Nat) :
    header? payload audioFormat.sampleRate audioFormat.channels =
      if payload ≤ maxPayload then
        some (Bytes.ofNat headerSize (headerWord 3 2 (payload + headerSize)))
      else none := by
  have known : rateTable.idxOf? audioFormat.sampleRate = some 3 := by decide
  rw [header?_eq known (by decide)]
  congr 1
  simp only [headerSize, maxPayload]
  exact propext (by omega)

end Adts

open Adts (Frame maxPayload)

namespace AccessUnit

/-- A unit that gets a frame of its own. -/
def fitsFrame (unit : AccessUnit) : Bool :=
  !unit.flags.isConfig && decide (unit.data.length ≤ maxPayload)

/-- What the call that writes a unit of AAC returns. -/
def aacReply (unit : AccessUnit) : Channel.Reply :=
  if unit.flags.isConfig || decide (unit.data.length ≤ maxPayload) then .ok
  else .error (.configuration (.oversizedAacFrame unit.data.length))

end AccessUnit

namespace Framer

/-- The header is out, and AAC units stand back to back. -/
structure Bare (f : Framer) : Prop where
  headerSent : f.headerSent = true
  codec : f.codec = .audio .aac
  frameMeta : f.frameMeta = false

namespace Bare

variable {f : Framer} {unit : AccessUnit}

theorem frame (h : f.Bare) (unit : AccessUnit) : Channel.Call.frame (.packet unit) f =
    f.adtsPacket unit := by
  simp [Channel.Call.frame, packet, h.headerSent, h.codec, h.frameMeta]

theorem frame_config (h : f.Bare) (config : unit.flags.isConfig = true) :
    Channel.Call.frame (.packet unit) f = .ok (f, none) := by
  rw [h.frame, adtsPacket, if_pos config]

theorem frame_long (h : f.Bare) (sound : unit.flags.isConfig = false)
    (long : maxPayload < unit.data.length) :
    Channel.Call.frame (.packet unit) f =
      .error (.configuration (.oversizedAacFrame unit.data.length)) := by
  have none := Adts.header?_audioFormat unit.data.length
  rw [if_neg (Nat.not_le.mpr long)] at none
  rw [h.frame, adtsPacket, if_neg (by simp [sound]), none]

theorem frame_fits (h : f.Bare) (fits : unit.fitsFrame = true) :
    ∃ bytes, Channel.Call.frame (.packet unit) f = .ok (f, some bytes) ∧
      bytes.length = Adts.headerSize + unit.data.length ∧
      ∀ rest, Frame.read? (bytes ++ rest) = some (Frame.ofUnit unit, rest) := by
  obtain ⟨sound, short⟩ := Bool.and_eq_true_iff.mp fits
  have known : Adts.rateTable.idxOf? audioFormat.sampleRate = some 3 := by decide
  have few : audioFormat.channels < 8 := by decide
  have header := Adts.header?_audioFormat unit.data.length
  rw [if_pos (of_decide_eq_true short)] at header
  refine ⟨_, ?_, ?_, Frame.read?_header known few header⟩
  · rw [h.frame, adtsPacket, if_neg (by simpa using sound), header]
  · rw [List.length_append, Adts.header?_length known few header]

/-- Whatever units come, those that fit a frame are read back. -/
theorem run (h : f.Bare) (units : List AccessUnit) :
    (f.run (units.map .packet)).1 = f ∧
    (f.run (units.map .packet)).2.2 = units.map (·.aacReply) ∧
    Bytes.items? Frame.read? (f.run (units.map .packet)).2.1 =
      some ((units.filter (·.fitsFrame)).map .ofUnit) := by
  induction units with
  | nil => exact ⟨rfl, rfl, Bytes.items?_nil _⟩
  | cons unit units ih =>
    obtain ⟨same, replies, items⟩ := ih
    simp only [List.map_cons, Framer.run, step]
    by_cases fits : unit.fitsFrame = true
    · obtain ⟨bytes, written, length, read⟩ := h.frame_fits fits
      have short := (Bool.and_eq_true_iff.mp fits).2
      simp only [written, Option.getD_some, List.filter_cons_of_pos fits]
      refine ⟨same, by rw [replies, AccessUnit.aacReply, short, Bool.or_true, if_pos rfl], ?_⟩
      have some : 0 < bytes.length := by
        rw [length, Adts.headerSize]
        omega
      rw [Bytes.items?_of_item (read _) (by rw [List.length_append]; omega), items]
      rfl
    · simp only [List.filter_cons_of_neg fits]
      cases config : unit.flags.isConfig with
      | true =>
        simp only [h.frame_config config, Option.getD_none, List.nil_append]
        exact ⟨same, by rw [replies, AccessUnit.aacReply, config, Bool.true_or, if_pos rfl], items⟩
      | false =>
        have long : maxPayload < unit.data.length := by
          simpa [AccessUnit.fitsFrame, config] using fits
        simp only [h.frame_long config long, List.nil_append]
        refine ⟨same, ?_, items⟩
        rw [replies, AccessUnit.aacReply, config, Bool.false_or, if_neg (by simpa using long)]

end Bare

end Framer

namespace Channel

theorem step_audioHeader (codecMeta : Bool) :
    Framer.step { codec := .audio .aac, codecMeta, frameMeta := false } .audioHeader =
      ({ codec := .audio .aac, codecMeta, frameMeta := false, headerSent := true },
        if codecMeta then
          Bytes.ofNat 4 (ChannelCodec.audio .aac).id ++ Bytes.ofNat 4 0 else [], .ok) := by
  cases codecMeta <;> rfl

/-- AAC without frame meta is read back frame by frame. Another unit then adds nothing if it is
configuration, is refused if it is too long, and adds one frame otherwise. -/
theorem read_adts (codecMeta : Bool) (units : List AccessUnit) (sink : Sink) (opened : sink.Open) :
    ∃ (after : Channel) (written : Bytes),
      run ⟨{ codec := .audio .aac, codecMeta, frameMeta := false }, sink⟩
          (.audioHeader :: units.map .packet) = (after, .ok :: units.map (·.aacReply)) ∧
      after.sink.accepted = sink.accepted ++
        (if codecMeta then Bytes.ofNat 4 (ChannelCodec.audio .aac).id ++ Bytes.ofNat 4 0 else [])
        ++ written ∧
      Bytes.items? Frame.read? written = some ((units.filter (·.fitsFrame)).map .ofUnit) ∧
      ∀ unit : AccessUnit,
        (unit.flags.isConfig = true → after.perform (.packet unit) = (after, .ok)) ∧
        (unit.flags.isConfig = false → maxPayload < unit.data.length →
          after.perform (.packet unit) =
            (after, .error (.configuration (.oversizedAacFrame unit.data.length)))) ∧
        (unit.flags.isConfig = false → unit.data.length ≤ maxPayload →
          ∃ (next : Channel) (bytes : Bytes), after.perform (.packet unit) = (next, .ok) ∧
            next.sink.accepted = after.sink.accepted ++ bytes ∧
            Frame.read? bytes = some (Frame.ofUnit unit, [])) := by
  have bare : Framer.Bare
      { codec := .audio .aac, codecMeta, frameMeta := false, headerSent := true } := ⟨rfl, rfl, rfl⟩
  obtain ⟨same, replies, items⟩ := bare.run units
  obtain ⟨after, ran, room, framer, accepted⟩ :=
    run_open (c := ⟨{ codec := .audio .aac, codecMeta, frameMeta := false }, sink⟩) opened
      (.audioHeader :: units.map .packet)
  simp only [Framer.run, step_audioHeader, same, replies] at ran framer accepted
  refine ⟨after, _, ran, by rw [accepted, List.append_assoc], items, fun unit => ⟨?_, ?_, ?_⟩⟩
  · intro config
    rw [perform, framer, bare.frame_config config, ← framer]
  · intro sound long
    rw [perform, framer, bare.frame_long sound long]
  · intro sound short
    have fits : unit.fitsFrame = true := by simp [AccessUnit.fitsFrame, sound, short]
    obtain ⟨bytes, written, -, read⟩ := bare.frame_fits fits
    obtain ⟨next, performed, -, -, more⟩ := perform_open room (.packet unit)
    rw [framer] at performed more
    simp only [Framer.step, written, Option.getD_some] at performed more
    refine ⟨next, bytes, performed, more, ?_⟩
    simpa using read []

/-- Configuration, empty units and units that are too long may stand between the others. -/
theorem read_adts_past_oversized :
    ∃ (after : Channel) (written : Bytes),
      run ⟨{ codec := .audio .aac, codecMeta := true, frameMeta := false }, { quota := fun _ => 3 }⟩
          [.audioHeader, .packet ⟨[0x11, 0x90], 0, .config⟩, .packet ⟨[1, 2, 3], 7, .none⟩,
            .packet ⟨List.replicate 8185 9, 8, .none⟩, .packet ⟨[], 9, .keyFrame⟩] =
        (after, [.ok, .ok, .ok, .error (.configuration (.oversizedAacFrame 8185)), .ok]) ∧
      after.sink.accepted = [0, 0x61, 0x61, 0x63, 0, 0, 0, 0] ++ written ∧
      Bytes.items? Frame.read? written = some [⟨1, 3, 2, [1, 2, 3]⟩, ⟨1, 3, 2, []⟩] := by
  have opened : Sink.Open { quota := fun _ => 3 } := ⟨by simp, rfl, rfl⟩
  have size : (List.replicate 8185 (9 : UInt8)).length = 8185 := List.length_replicate
  -- the length is all that matters of the long one
  generalize List.replicate 8185 (9 : UInt8) = long at size ⊢
  obtain ⟨after, written, ran, accepted, read, -⟩ :=
    read_adts true [⟨[0x11, 0x90], 0, .config⟩, ⟨[1, 2, 3], 7, .none⟩, ⟨long, 8, .none⟩,
      ⟨[], 9, .keyFrame⟩] _ opened
  have replies : AccessUnit.aacReply ⟨long, 8, .none⟩ =
      .error (.configuration (.oversizedAacFrame 8185)) := by
    simp [AccessUnit.aacReply, size, maxPayload, BufferFlags.isConfig, BufferFlags.none]
  have left : AccessUnit.fitsFrame ⟨long, 8, .none⟩ = false := by
    simp [AccessUnit.fitsFrame, size, maxPayload]
  refine ⟨after, written, ?_, accepted, ?_⟩
  · simp only [List.map_cons, List.map_nil, replies] at ran
    exact ran
  · rw [List.filter_cons_of_neg (by decide), List.filter_cons_of_pos (by decide),
      List.filter_cons_of_neg (by simp [left])] at read
    exact read

end Channel

end Screencast
