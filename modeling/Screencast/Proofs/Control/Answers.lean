import Screencast.Proofs.Control.Reading

/-!
What the device tells the desktop arrives in portions. However these are cut, each message is read
once it is complete, in order, and not a byte is taken of one that is not (`feed_answers`).
-/

namespace Screencast.DeviceMessage

open ControlMessage (Cut)
open Decoded (feed Loop)

/-- What arrives of a message: of a text that is too long, the longest part that fits. -/
def normalised : DeviceMessage → DeviceMessage
  | clipboard text => clipboard (Text.truncate text deviceClipboardTextMax)
  | ack sequence => ack sequence

theorem encode_clipboard (text : String) :
    (clipboard text).encode =
      0 :: Frame.textBytes (utf8 (Text.truncate text deviceClipboardTextMax)) := rfl

theorem encode_ack (sequence : UInt64) :
    (ack sequence).encode = 1 :: Bytes.ofNat 8 sequence.toNat := rfl

theorem frameLength_framing : Framing frameLength messageMax := by
  refine .of_tags rfl (by decide) fun tag => ?_
  match hn : tag.toNat with
  | 0 =>
    refine .inr (.inl ⟨1, deviceClipboardTextMax, by decide, fun b => ?_⟩)
    simp only [frameLength, hn]
  | 1 =>
    refine .inl ⟨9, by decide, by decide, fun b => ?_⟩
    simp only [frameLength, hn]
  | n + 2 =>
    refine .inr (.inr ⟨.unknownMessageType (n + 2), fun b => ?_⟩)
    simp only [frameLength, hn]

theorem decode_incremental : Decoded.Incremental decode := frameLength_framing.incremental

/-- An encoded message announces its own length. -/
theorem frameLength_encode (m : DeviceMessage) (rest : Bytes) :
    frameLength (m.encode ++ rest) = .ok (some m.encode.length) := by
  cases m with
  | ack sequence => simp [encode_ack, frameLength]
  | clipboard text =>
    have fits := (Text.truncate_longest text deviceClipboardTextMax).fits
    rw [← length_utf8] at fits
    have small := Nat.lt_of_le_of_lt fits (show deviceClipboardTextMax < 256 ^ 4 by decide)
    have length := Frame.textFrameLength_textBytes fits small [0] rest
    have total : (clipboard text).encode.length =
        1 + 4 + (utf8 (Text.truncate text deviceClipboardTextMax)).length := by
      rw [encode_clipboard, List.length_cons, Frame.textBytes, List.length_append,
        Bytes.length_ofNat]
      omega
    rw [total]
    exact length

/-- The fields of an encoded message are read to its end. -/
theorem run_encode (m : DeviceMessage) : fields.run m.encode = .ok (m.normalised, []) := by
  cases m with
  | ack sequence =>
    have read := FieldReader.run_u64 sequence []
    rw [List.append_nil] at read
    simp [encode_ack, fields, normalised, read]
  | clipboard text =>
    have fits := (Text.truncate_longest text deviceClipboardTextMax).fits
    rw [← length_utf8] at fits
    have small := Nat.lt_of_le_of_lt fits (show deviceClipboardTextMax < 2 ^ 32 by decide)
    have read := FieldReader.run_prefixedText small []
    rw [List.append_nil, utf8?_utf8, ← Frame.textBytes] at read
    simp [encode_clipboard, fields, normalised, read]

theorem decode_encode (m : DeviceMessage) : Decoded.Reads decode m.normalised m.encode := by
  intro rest
  rw [decode, decodeFrame_framed (frameLength_encode m rest), run_encode]
  rfl

theorem reads_encoded (messages : List DeviceMessage) :
    List.Forall₂ (Decoded.Reads decode) (messages.map normalised) (messages.map encode) := by
  induction messages with
  | nil => exact .nil
  | cons m messages ih => exact .cons (decode_encode m) ih

/-- What the device tells is read in order, in whatever portions it arrives, with nothing lost but
what does not fit into a message. After each portion the messages that are complete have been read,
and all of the next one that is there is left untouched. -/
theorem feed_answers (messages : List DeviceMessage) {chunks : List Bytes}
    (cut : chunks.flatten = messages.flatMap encode) :
    feed decode chunks = ⟨messages.map normalised, .incomplete, []⟩ ∧
    (∀ j, ∃ n rest, Cut (messages.map encode) (chunks.take j).flatten.length n rest ∧
      feed decode (chunks.take j) = ⟨(messages.take n).map normalised, .incomplete, rest⟩) ∧
    (∀ m : DeviceMessage, m.encode.length ≤ 2 ^ 18) ∧
    ∀ text, Text.LongestFitting (2 ^ 18 - 5) text (Text.truncate text deviceClipboardTextMax) := by
  have whole : chunks.flatten = (messages.map encode).flatten := by
    rw [cut, List.flatMap_def]
  refine ⟨?_, ?_, length_encode_le, fun text => Text.truncate_longest text _⟩
  · rw [Decoded.feed_eq_drain decode_incremental, whole]
    exact decode_incremental.drain_eq_of_loop
      (decode_incremental.loop_parts (reads_encoded messages))
  · intro j
    have front : (chunks.take j).flatten =
        (messages.map encode).flatten.take (chunks.take j).flatten.length := by
      rw [← whole]
      conv_rhs => rw [← List.take_append_drop j chunks, List.flatten_append]
      simp
    obtain ⟨n, rest, bytes, within, short, loop⟩ :=
      decode_incremental.loop_take (reads_encoded messages) (chunks.take j).flatten.length
    refine ⟨n, rest, ⟨bytes, within, short⟩, ?_⟩
    rw [Decoded.feed_eq_drain decode_incremental, front, List.map_take]
    exact decode_incremental.drain_eq_of_loop loop

/-- A text of two characters, and the portions end inside its length and inside a character. -/
theorem feed_answers_cut_anywhere :
    let messages : List DeviceMessage := [.clipboard "aé", .ack 258]
    let chunks : List Bytes :=
      [[0, 0], [0, 0, 3, 97, 0xc3], [0xa9, 1, 0, 0, 0], [0, 0, 0, 1], [2]]
    chunks.flatten = messages.flatMap encode ∧
      feed decode chunks = ⟨messages, .incomplete, []⟩ ∧
      feed decode (chunks.take 2) = ⟨[], .incomplete, [0, 0, 0, 0, 3, 97, 0xc3]⟩ := by
  intro messages chunks
  have cut : chunks.flatten = messages.flatMap encode := by decide
  exact ⟨cut, (feed_answers messages cut).1.trans rfl, rfl⟩

end Screencast.DeviceMessage
