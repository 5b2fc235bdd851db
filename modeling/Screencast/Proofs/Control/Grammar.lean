import Screencast.Proofs.Control.Frame

/-!
The decoder against the grammar. The fields of a frame are read to its very end and never beyond
(`run_fields`), whatever has the length that its front asks for is a frame (`exists_frame`), and so
a request is decoded exactly where a frame with a meaning stands (`decode_bytes`, `front_decode`).
-/

namespace Screencast

namespace Frame

open ControlMessage (frameLength fields)

theorem textFrameLength_textBytes {max : Nat} {content : Bytes} (fits : content.length ≤ max)
    (small : content.length < 256 ^ 4) (head rest : Bytes) :
    textFrameLength head.length max (head ++ (textBytes content ++ rest)) =
      .ok (some (head.length + 4 + content.length)) := by
  rw [textBytes, List.append_assoc, textFrameLength_word rfl small, if_neg (by omega)]

theorem frameLength_bytes (f : Frame) (rest : Bytes) :
    frameLength (f.bytes ++ rest) = .ok (some f.bytes.length) := by
  cases f with
  | typeText content fits =>
    have small : content.length < 256 ^ 4 := Nat.lt_of_le_of_lt fits (by decide)
    have length := textFrameLength_textBytes fits small [1] rest
    have total : (typeText content fits).bytes.length = 1 + 4 + content.length := by
      simp only [bytes, textBytes, List.length_cons, List.length_append, Bytes.length_ofNat]
      omega
    rw [total]
    exact length
  | fillClipboard sequence paste content fits =>
    have small : content.length < 256 ^ 4 := Nat.lt_of_le_of_lt fits (by decide)
    have length := textFrameLength_textBytes fits small
      (9 :: (Bytes.ofNat 8 sequence.toNat ++ Bytes.ofNat 1 paste.toNat)) rest
    have total : (fillClipboard sequence paste content fits).bytes.length =
        10 + 4 + content.length := by
      simp only [bytes, textBytes, List.length_cons, List.length_append, Bytes.length_ofNat]
      omega
    simp only [List.length_cons, List.length_append, Bytes.length_ofNat, List.cons_append,
      List.append_assoc] at length
    rw [total]
    simp only [bytes, List.cons_append, List.append_assoc]
    exact length
  | _ => simp [bytes, frameLength]

/-- The fields of a frame are read to its very end, and never beyond. -/
theorem run_fields (f : Frame) (rest : Bytes) :
    fields.run (f.bytes ++ rest) = match f.message with
      | .ok m => .ok (m, rest)
      | .error e => .error (.malformed e) := by
  cases f with
  | typeText content fits =>
    have small : content.length < 2 ^ 32 := Nat.lt_of_le_of_lt fits (by decide)
    have read := FieldReader.run_prefixedText small rest
    rw [← textBytes] at read
    cases h : utf8? content <;> simp [bytes, fields, message, textOf, Except.map, read, h]
  | fillClipboard sequence paste content fits =>
    have small : content.length < 2 ^ 32 := Nat.lt_of_le_of_lt fits (by decide)
    have read := FieldReader.run_prefixedText small rest
    rw [← textBytes] at read
    cases h : utf8? content <;>
      simp [bytes, fields, message, ControlMessage.readClipboard, textOf, Except.map, read, h]
  | fetchClipboard code =>
    cases h : CopyKey.ofCode? code.toNat <;>
      simp [bytes, fields, message, ControlMessage.readCopyKey, h]
  | key | touch => simp [bytes, fields, message, ControlMessage.readKey, ControlMessage.readTouch]
  | _ => simp [bytes, fields, message, ControlMessage.readScroll]

theorem exists_byte {p : Bytes} (h : p.length = 1) : ∃ x : UInt8, p = Bytes.ofNat 1 x.toNat := by
  obtain ⟨x, p, rfl, h₁⟩ := Bytes.exists_u8 h
  obtain rfl := List.eq_nil_of_length_eq_zero h₁
  exact ⟨x, List.append_nil _⟩

theorem exists_key {p : Bytes} (h : p.length = 13) : ∃ k, (key k).bytes = 0 :: p := by
  obtain ⟨action, p, rfl, h₁⟩ := Bytes.exists_u8 h
  obtain ⟨keycode, p, rfl, h₂⟩ := Bytes.exists_u32 h₁
  obtain ⟨repeats, p, rfl, h₃⟩ := Bytes.exists_u32 h₂
  obtain ⟨metastate, p, rfl, h₄⟩ := Bytes.exists_u32 h₃
  obtain rfl := List.eq_nil_of_length_eq_zero h₄
  exact ⟨⟨action, keycode, repeats, metastate⟩, by simp [bytes]⟩

theorem exists_touch {p : Bytes} (h : p.length = 31) :
    ∃ action pointerId spot pressure actionButton buttons,
      (touch action pointerId spot pressure actionButton buttons).bytes = 2 :: p := by
  obtain ⟨action, p, rfl, h₁⟩ := Bytes.exists_u8 h
  obtain ⟨pointerId, p, rfl, h₂⟩ := Bytes.exists_u64 h₁
  obtain ⟨spot, p, rfl, h₃⟩ := Spot.exists_spot h₂
  obtain ⟨pressure, p, rfl, h₄⟩ := Bytes.exists_u16 h₃
  obtain ⟨actionButton, p, rfl, h₅⟩ := Bytes.exists_u32 h₄
  obtain ⟨buttons, p, rfl, h₆⟩ := Bytes.exists_u32 h₅
  obtain rfl := List.eq_nil_of_length_eq_zero h₆
  exact ⟨action, pointerId, spot, pressure, actionButton, buttons, by simp [bytes]⟩

theorem exists_scroll {p : Bytes} (h : p.length = 20) :
    ∃ spot horizontal vertical buttons,
      (scroll spot horizontal vertical buttons).bytes = 3 :: p := by
  obtain ⟨spot, p, rfl, h₁⟩ := Spot.exists_spot h
  obtain ⟨horizontal, p, rfl, h₂⟩ := Bytes.exists_i16 h₁
  obtain ⟨vertical, p, rfl, h₃⟩ := Bytes.exists_i16 h₂
  obtain ⟨buttons, p, rfl, h₄⟩ := Bytes.exists_u32 h₃
  obtain rfl := List.eq_nil_of_length_eq_zero h₄
  exact ⟨spot, horizontal, vertical, buttons, by simp [bytes]⟩

theorem exists_typeText {p rest : Bytes}
    (h : textFrameLength 1 typedTextMax (1 :: p ++ rest) = .ok (some (1 :: p).length)) :
    ∃ content fits, (typeText content fits).bytes = 1 :: p := by
  obtain ⟨head, content, hl, fits, hp⟩ := exists_textBytes h
  obtain ⟨b, rfl⟩ := List.length_eq_one_iff.mp hl
  obtain ⟨rfl, rfl⟩ := List.cons_eq_cons.mp hp
  exact ⟨content, fits, rfl⟩

theorem exists_fillClipboard {p rest : Bytes}
    (h : textFrameLength 10 clipboardTextMax (9 :: p ++ rest) = .ok (some (9 :: p).length)) :
    ∃ sequence paste content fits,
      (fillClipboard sequence paste content fits).bytes = 9 :: p := by
  obtain ⟨head, content, hl, fits, hp⟩ := exists_textBytes h
  obtain _ | ⟨b, head⟩ := head
  · cases hl
  · obtain ⟨rfl, rfl⟩ := List.cons_eq_cons.mp hp
    obtain ⟨sequence, head, rfl, h₁⟩ := Bytes.exists_u64 (Nat.succ.inj hl)
    obtain ⟨paste, head, rfl, h₂⟩ := Bytes.exists_u8 h₁
    obtain rfl := List.eq_nil_of_length_eq_zero h₂
    exact ⟨sequence, paste, content, fits, by simp [bytes]⟩

/-- Whatever has the length that its own front asks for is a frame. -/
theorem exists_frame {p rest : Bytes} (h : frameLength (p ++ rest) = .ok (some p.length)) :
    ∃ f : Frame, f.bytes = p := by
  cases p with
  | nil => exact absurd (ControlMessage.frameLength_framing.within h).1 (Nat.lt_irrefl 0)
  | cons tag p =>
    have tagged {n : Nat} (hn : tag.toNat = n) : tag = UInt8.ofNat n := by simp [← hn]
    have size {n : Nat}
        (h : (.ok (some (n + 1)) : Except MessageFault _) = .ok (some (p.length + 1))) :
        p.length = n := by
      cases h
      rfl
    match hn : tag.toNat with
    | 0 =>
      obtain rfl := tagged hn
      obtain ⟨k, hk⟩ := exists_key (size h)
      exact ⟨_, hk⟩
    | 1 =>
      obtain rfl := tagged hn
      obtain ⟨content, fits, hp⟩ := exists_typeText h
      exact ⟨_, hp⟩
    | 2 =>
      obtain rfl := tagged hn
      obtain ⟨_, _, _, _, _, _, hp⟩ := exists_touch (size h)
      exact ⟨_, hp⟩
    | 3 =>
      obtain rfl := tagged hn
      obtain ⟨_, _, _, _, hp⟩ := exists_scroll (size h)
      exact ⟨_, hp⟩
    | 4 =>
      obtain rfl := tagged hn
      obtain ⟨action, rfl⟩ := exists_byte (size h)
      exact ⟨.backOrWake action, rfl⟩
    | 5 =>
      obtain rfl := tagged hn
      obtain rfl := List.eq_nil_of_length_eq_zero (size h)
      exact ⟨.openNotifications, rfl⟩
    | 6 =>
      obtain rfl := tagged hn
      obtain rfl := List.eq_nil_of_length_eq_zero (size h)
      exact ⟨.openSettings, rfl⟩
    | 7 =>
      obtain rfl := tagged hn
      obtain rfl := List.eq_nil_of_length_eq_zero (size h)
      exact ⟨.closePanels, rfl⟩
    | 8 =>
      obtain rfl := tagged hn
      obtain ⟨code, rfl⟩ := exists_byte (size h)
      exact ⟨.fetchClipboard code, rfl⟩
    | 9 =>
      obtain rfl := tagged hn
      obtain ⟨_, _, _, _, hp⟩ := exists_fillClipboard h
      exact ⟨_, hp⟩
    | 10 =>
      obtain rfl := tagged hn
      obtain ⟨mode, rfl⟩ := exists_byte (size h)
      exact ⟨.setPower mode, rfl⟩
    | 11 =>
      obtain rfl := tagged hn
      obtain rfl := List.eq_nil_of_length_eq_zero (size h)
      exact ⟨.rotate, rfl⟩
    | n + 12 =>
      simp only [List.cons_append, frameLength, hn] at h
      cases h

end Frame

/-! ### Decoding -/

namespace ControlMessage

theorem decode_incremental : Decoded.Incremental decode := frameLength_framing.incremental

/-- What can stand at the front of a buffer, and what an attempt makes of it. -/
inductive Front : Bytes → Decoded ControlMessage → Prop where
  | refused {b : Bytes} {e : MessageFault} : frameLength b = .error e → Front b (.malformed e b)
  | incomplete {b : Bytes} : b.length < messageMax → Front b .incomplete
  | message {m : ControlMessage} (f : Frame) (rest : Bytes) : f.message = .ok m →
      Front (f.bytes ++ rest) (.message m rest)
  | malformed {e : MessageFault} (f : Frame) (rest : Bytes) : f.message = .error e →
      Front (f.bytes ++ rest) (.malformed e rest)

theorem decode_bytes (f : Frame) (rest : Bytes) :
    decode (f.bytes ++ rest) = match f.message with
      | .ok m => .message m rest
      | .error e => .malformed e rest := by
  have read := f.run_fields []
  rw [List.append_nil] at read
  rw [decode, decodeFrame_framed (f.frameLength_bytes rest), read]
  cases f.message <;> rfl

theorem front_decode (b : Bytes) : Front b (decode b) := by
  have attempt := attempt_decodeFrame frameLength fields b
  have hd : decode b = decodeFrame frameLength fields b := rfl
  rw [← hd] at attempt
  generalize hd : decode b = d at attempt
  cases attempt with
  | refused error => exact .refused error
  | undecided | short => exact .incomplete (frameLength_framing.length_lt_of_incomplete hd)
  | framed some =>
    obtain ⟨f, rfl⟩ := Frame.exists_frame some
    rw [← hd, decode_bytes]
    cases h : f.message with
    | ok m => exact .message f _ h
    | error e => exact .malformed f _ h

end ControlMessage

end Screencast
