import Screencast.Proofs.Control.RoundTrip

/-!
Requests that arrive in portions. Any bytes whatever are decoded alike in however many portions
they come (`decode_extends`), and what was encoded comes out again (`feed_encoded`).
-/

namespace Screencast.ControlMessage

open Decoded (drain feed Loop)

/-- What a fault takes off the front of a buffer: the whole frame if the fault is in the value of a
field, and nothing if it shows in the type or the length. -/
def TakenBy (b rest : Bytes) : MessageFault → Prop
  | .unknownMessageType _ | .textTooLong _ _ => rest = b
  | .invalidUtf8 | .invalidCopyKey _ =>
    ∃ frame, b = frame ++ rest ∧ frameLength b = .ok (some frame.length)

theorem takenBy_of_refused {b : Bytes} {e : MessageFault} (h : frameLength b = .error e) :
    TakenBy b b e := by
  cases b with
  | nil => cases h
  | cons tag b =>
    cases lengthRule tag with
    | fixed n bounds rule => rw [rule] at h; cases h
    | unknown rule => rw [rule] at h; cases h; rfl
    | text offset max bound rule =>
      rw [rule] at h
      obtain ⟨length, rfl⟩ := textFrameLength_eq_error h
      rfl

theorem takenBy_of_message {f : Frame} {e : MessageFault} (h : f.message = .error e)
    (rest : Bytes) : TakenBy (f.bytes ++ rest) rest e := by
  have frame : ∃ frame, f.bytes ++ rest = frame ++ rest ∧
      frameLength (f.bytes ++ rest) = .ok (some frame.length) :=
    ⟨f.bytes, rfl, f.frameLength_bytes rest⟩
  cases f with
  | typeText content fits =>
    simp only [Frame.message, Frame.textOf] at h
    split at h <;> cases h
    exact frame
  | fillClipboard sequence paste content fits =>
    simp only [Frame.message, Frame.textOf] at h
    split at h <;> cases h
    exact frame
  | fetchClipboard code =>
    simp only [Frame.message] at h
    split at h <;> cases h
    exact frame
  | _ => cases h

/-- More bytes change nothing about what was decoded before them, be it a request or a fault, and
less than the longest request is ever waited with. So the portions of a stream make no difference,
and the decode loop ends. -/
theorem decode_extends (b c : Bytes) :
    (match decode b with
      | .message m rest => decode (b ++ c) = .message m (rest ++ c) ∧ rest.length < b.length
      | .malformed e rest => decode (b ++ c) = .malformed e (rest ++ c) ∧ TakenBy b rest e
      | .incomplete => drain decode b = ⟨[], .incomplete, b⟩ ∧ b.length < 2 ^ 18
      | .overrun => False) ∧
    (∀ chunks : List Bytes, feed decode chunks = drain decode chunks.flatten) ∧
    Loop decode b (drain decode b) := by
  have inc := decode_incremental
  refine ⟨?_, Decoded.feed_eq_drain inc, inc.loop_drain b⟩
  have front := front_decode b
  generalize hd : decode b = d at front ⊢
  cases front with
  | incomplete less => exact ⟨inc.drain_eq_of_loop (.incomplete hd), less⟩
  | refused error => exact ⟨inc.append_eq hd (by simp) c, takenBy_of_refused error⟩
  | message f rest h => exact ⟨inc.append_eq hd (by simp) c, inc.shorter hd⟩
  | malformed f rest h => exact ⟨inc.append_eq hd (by simp) c, takenBy_of_message h rest⟩

theorem reads_of_encoded {messages : List ControlMessage} {parts : List Bytes}
    (encoded : List.Forall₂ (fun m part => encode m = .ok part) messages parts) :
    List.Forall₂ (Decoded.Reads decode) (messages.map normalised) parts := by
  induction encoded with
  | nil => exact .nil
  | cons h _ ih => exact .cons (decode_encode h) ih

theorem loop_encoded {messages : List ControlMessage} {parts : List Bytes}
    (encoded : List.Forall₂ (fun m part => encode m = .ok part) messages parts) :
    Loop decode parts.flatten ⟨messages.map normalised, .incomplete, []⟩ :=
  decode_incremental.loop_parts (reads_of_encoded encoded)

theorem length_encode_le {m : ControlMessage} {p : Bytes} (h : m.encode = .ok p) :
    p.length ≤ messageMax := by
  obtain ⟨f, rfl, _⟩ := exists_frame_of_encode h
  exact (frameLength_framing.within (f.frameLength_bytes [])).2

/-- What was encoded is decoded, in whatever portions it arrives, with nothing lost but what the
wire cannot hold; of a text for the clipboard that is all but the longest part that fits. -/
theorem feed_encoded {messages : List ControlMessage} {parts chunks : List Bytes}
    (encoded : List.Forall₂ (fun m part => encode m = .ok part) messages parts)
    (cut : chunks.flatten = parts.flatten) :
    feed decode chunks = ⟨messages.map normalised, .incomplete, []⟩ ∧
    (∀ part ∈ parts, part.length ≤ 2 ^ 18) ∧
    ∀ text, Text.LongestFitting 262130 text (Text.truncate text clipboardTextMax) := by
  refine ⟨?_, ?_, fun text => Text.truncate_longest text clipboardTextMax⟩
  · rw [Decoded.feed_eq_drain decode_incremental, cut]
    exact decode_incremental.drain_eq_of_loop (loop_encoded encoded)
  · intro part hp
    clear cut
    induction encoded with
    | nil => cases hp
    | cons h _ ih =>
      obtain rfl | hp := List.mem_cons.mp hp
      · exact length_encode_le h
      · exact ih hp

/-- Cut inside the length of a text, inside a character and inside a word. -/
theorem feed_encoded_cut_anywhere :
    let messages : List ControlMessage :=
      [.typeText "é", .fillClipboard ⟨1, true, "ü"⟩, .scroll ⟨⟨1, 2, 70000, 3⟩, -1, 0, 0⟩]
    let parts : List Bytes :=
      [[1, 0, 0, 0, 2, 0xc3, 0xa9],
       [9, 0, 0, 0, 0, 0, 0, 0, 1, 1, 0, 0, 0, 2, 0xc3, 0xbc],
       [3, 0, 0, 0, 1, 0, 0, 0, 2, 0xff, 0xff, 0, 3, 0xff, 0xff, 0, 0, 0, 0, 0, 0]]
    let chunks : List Bytes :=
      [[1, 0], [0, 0, 2, 0xc3], [],
       [0xa9, 9, 0, 0, 0, 0, 0, 0, 0, 1, 1, 0, 0], [0, 2, 0xc3, 0xbc, 3],
       [0, 0, 0, 1, 0, 0, 0, 2, 0xff, 0xff, 0, 3, 0xff], [0xff, 0, 0, 0, 0, 0, 0]]
    List.Forall₂ (fun m part => encode m = .ok part) messages parts ∧
      chunks.flatten = parts.flatten ∧
      feed decode chunks = ⟨[.typeText "é", .fillClipboard ⟨1, true, "ü"⟩,
        .scroll ⟨⟨1, 2, 65535, 3⟩, -1, 0, 0⟩], .incomplete, []⟩ := by
  intro messages parts chunks
  have encoded : List.Forall₂ (fun m part => encode m = .ok part) messages parts :=
    .cons (by decide) (.cons (by decide) (.cons (by decide) .nil))
  have cut : chunks.flatten = parts.flatten := by decide
  exact ⟨encoded, cut, (feed_encoded encoded cut).1.trans rfl⟩

end Screencast.ControlMessage
