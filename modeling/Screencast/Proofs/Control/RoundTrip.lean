import Screencast.Proofs.Binary32.Fraction16
import Screencast.Proofs.Control.Grammar
import Screencast.Proofs.Text.Truncate

/-!
The encoder against the grammar. What is encoded is a frame that means the same request, up to what
the wire cannot hold (`exists_frame_of_encode`), and a request that was decoded is encoded as the
frame it came from, up to the form of its paste flag (`encode_of_message`).
-/

namespace Screencast

namespace Position

/-- With sides of 16 bits at most. -/
def clamped (p : Position) : Position :=
  { p with
    width := UInt32.ofNat (min p.width.toNat 0xffff)
    height := UInt32.ofNat (min p.height.toNat 0xffff) }

def spot (p : Position) : Spot :=
  ⟨p.x, p.y, UInt16.ofNat (min p.width.toNat 0xffff), UInt16.ofNat (min p.height.toNat 0xffff)⟩

theorem bytes_spot (p : Position) : p.spot.bytes = p.encode := by
  have width : (UInt16.ofNat (min p.width.toNat 0xffff)).toNat = min p.width.toNat 0xffff :=
    UInt16.toNat_ofNat_of_lt' (by change _ < 65536; omega)
  have height : (UInt16.ofNat (min p.height.toNat 0xffff)).toNat = min p.height.toNat 0xffff :=
    UInt16.toNat_ofNat_of_lt' (by change _ < 65536; omega)
  simp only [Spot.bytes, spot, width, height, encode, List.append_assoc]

theorem position_spot (p : Position) : p.spot.position = p.clamped := by
  have word {n : Nat} (small : n ≤ 0xffff) : (UInt16.ofNat n).toUInt32 = UInt32.ofNat n := by
    apply UInt32.toNat_inj.mp
    rw [UInt16.toNat_toUInt32, UInt16.toNat_ofNat_of_lt' (by change _ < 65536; omega),
      UInt32.toNat_ofNat_of_lt' (by change _ < 4294967296; omega)]
  simp only [Spot.position, spot, clamped, word (Nat.min_le_right _ _)]

end Position

namespace Spot

theorem encode_position (s : Spot) : s.position.encode = s.bytes := by
  have width := s.width.toNat_lt
  have height := s.height.toNat_lt
  simp only [position, Position.encode, bytes, UInt16.toNat_toUInt32, List.append_assoc]
  rw [Nat.min_eq_left (by omega), Nat.min_eq_left (by omega)]

theorem clamped_position (s : Spot) : s.position.clamped = s.position := by
  have width := s.width.toNat_lt
  have height := s.height.toNat_lt
  simp only [Position.clamped, position, UInt16.toNat_toUInt32]
  rw [Nat.min_eq_left (by omega), Nat.min_eq_left (by omega)]
  simp

end Spot

theorem CopyKey.ofCode?_eq_some {code : Nat} {k : CopyKey} :
    ofCode? code = some k ↔ k.code = code := by
  match code with
  | 0 | 1 | 2 => cases k <;> simp [ofCode?, CopyKey.code]
  | code + 3 => cases k <;> simp [ofCode?, CopyKey.code]

namespace ControlMessage

/-- What arrives of a request: sides of a picture are clamped to 16 bits, the pressure is that of a
16 bit code, and a text for the clipboard is cut. -/
def normalised : ControlMessage → ControlMessage
  | touch t => touch
    { t with position := t.position.clamped, pressure := .ofFraction16 t.pressure.toFraction16 }
  | scroll s => scroll { s with position := s.position.clamped }
  | fillClipboard c => fillClipboard { c with text := Text.truncate c.text clipboardTextMax }
  | m => m

def plainFlag (flag : UInt8) : UInt8 := if flag = 0 then 0 else 1

/-- A frame with its paste flag, if it has one, written as 0 or 1. -/
def plainPaste (frame : Bytes) : Bytes :=
  if frame.head? = some 9 then frame.modify 9 plainFlag else frame

theorem encode_eq_ok {m : ControlMessage} {p : Bytes} :
    m.encode = .ok p ↔ ∃ b, m.body = .ok b ∧ UInt8.ofNat m.tag :: b = p := by
  cases h : m.body <;> simp [encode, h, Bytes.ofNat]

theorem exists_frame_of_encode {m : ControlMessage} {p : Bytes} (h : m.encode = .ok p) :
    ∃ f : Frame, f.bytes = p ∧ f.message = .ok m.normalised := by
  obtain ⟨b, hb, rfl⟩ := encode_eq_ok.mp h
  cases m with
  | key k =>
    cases hb
    exact ⟨.key k, by simp [Frame.bytes, encodeKey, tag], rfl⟩
  | typeText text =>
    simp only [body] at hb
    split at hb
    · cases hb
    · cases hb
      rename_i fits
      refine ⟨.typeText (utf8 text) (by simpa using fits), rfl, ?_⟩
      simp [Frame.message, Frame.textOf, Except.map, normalised]
  | touch t =>
    cases hb
    refine ⟨.touch t.action t.pointerId t.position.spot t.pressure.toFraction16 t.actionButton
      t.buttons, ?_, ?_⟩
    · simp [Frame.bytes, encodeTouch, Position.bytes_spot, tag]
    · simp [Frame.message, normalised, Position.position_spot]
  | scroll s =>
    cases hb
    refine ⟨.scroll s.position.spot s.horizontal s.vertical s.buttons, ?_, ?_⟩
    · simp [Frame.bytes, encodeScroll, Position.bytes_spot, tag]
    · simp [Frame.message, normalised, Position.position_spot]
  | backOrWake action => cases hb; exact ⟨.backOrWake action, rfl, rfl⟩
  | openNotifications => cases hb; exact ⟨.openNotifications, rfl, rfl⟩
  | openSettings => cases hb; exact ⟨.openSettings, rfl, rfl⟩
  | closePanels => cases hb; exact ⟨.closePanels, rfl, rfl⟩
  | fetchClipboard copyKey =>
    cases hb
    refine ⟨.fetchClipboard (UInt8.ofNat copyKey.code), ?_, ?_⟩ <;> cases copyKey <;> rfl
  | fillClipboard c =>
    cases hb
    have fits := (Text.truncate_longest c.text clipboardTextMax).fits
    refine ⟨.fillClipboard c.sequence (UInt8.ofNat c.paste.toNat)
      (utf8 (Text.truncate c.text clipboardTextMax)) fits, ?_, ?_⟩
    · cases hp : c.paste <;>
        simp [Frame.bytes, Frame.textBytes, encodeClipboard, prefixedText, tag, hp]
    · cases hp : c.paste <;>
        simp [Frame.message, Frame.textOf, Except.map, normalised, hp]
  | setPower mode => cases hb; exact ⟨.setPower mode, rfl, rfl⟩
  | rotate => cases hb; exact ⟨.rotate, rfl, rfl⟩

theorem plainPaste_of_ne {tag : UInt8} (h : tag ≠ 9) (p : Bytes) :
    plainPaste (tag :: p) = tag :: p := by
  simp [plainPaste, h]

theorem plainPaste_append {head : Bytes} (full : head.length = 8) (flag : UInt8) (tail : Bytes) :
    plainPaste (9 :: (head ++ flag :: tail)) = 9 :: (head ++ plainFlag flag :: tail) := by
  simp [plainPaste, ← full, List.modify_eq_take_drop]

theorem encode_of_message {f : Frame} {m : ControlMessage} (h : f.message = .ok m) :
    m.encode = .ok (plainPaste f.bytes) ∧ m.normalised = m := by
  cases f with
  | key k =>
    cases h
    refine ⟨encode_eq_ok.mpr ⟨_, rfl, ?_⟩, rfl⟩
    simp [Frame.bytes, plainPaste_of_ne, encodeKey, tag]
  | typeText content fits =>
    simp only [Frame.message, Frame.textOf] at h
    split at h <;> cases h
    rename_i text utf
    obtain rfl := utf8?_eq_some.mp utf
    refine ⟨encode_eq_ok.mpr ⟨prefixedText text, ?_, ?_⟩, rfl⟩
    · exact if_neg (Nat.not_lt.mpr fits)
    · simp [Frame.bytes, Frame.textBytes, plainPaste_of_ne, prefixedText, tag]
  | touch action pointerId spot pressure actionButton buttons =>
    cases h
    have code := Binary32.toFraction16_ofFraction16 pressure
    refine ⟨encode_eq_ok.mpr ⟨_, rfl, ?_⟩, ?_⟩
    · simp [Frame.bytes, plainPaste_of_ne, encodeTouch, tag, Spot.encode_position, code]
    · simp [normalised, Spot.clamped_position, code]
  | scroll spot horizontal vertical buttons =>
    cases h
    refine ⟨encode_eq_ok.mpr ⟨_, rfl, ?_⟩, ?_⟩
    · simp [Frame.bytes, plainPaste_of_ne, encodeScroll, tag, Spot.encode_position]
    · simp [normalised, Spot.clamped_position]
  | backOrWake action =>
    cases h
    refine ⟨encode_eq_ok.mpr ⟨_, rfl, ?_⟩, rfl⟩
    simp [Frame.bytes, plainPaste_of_ne, tag]
  | openNotifications | openSettings | closePanels | rotate => cases h; exact ⟨rfl, rfl⟩
  | fetchClipboard code =>
    simp only [Frame.message] at h
    split at h <;> cases h
    rename_i copyKey hc
    refine ⟨encode_eq_ok.mpr ⟨_, rfl, ?_⟩, rfl⟩
    have value : copyKey.code = code.toNat := CopyKey.ofCode?_eq_some.mp hc
    simp [Frame.bytes, plainPaste_of_ne, tag, value]
  | fillClipboard sequence paste content fits =>
    simp only [Frame.message, Frame.textOf] at h
    split at h <;> cases h
    rename_i text utf
    obtain rfl := utf8?_eq_some.mp utf
    have whole : Text.truncate text clipboardTextMax = text := Text.truncate_of_le fits
    have byte : Bytes.ofNat 1 paste.toNat = [paste] := by simp [Bytes.ofNat]
    have flag : Bytes.ofNat 1 (paste.toNat != 0).toNat = [plainFlag paste] := by
      by_cases zero : paste = 0
      · subst zero; rfl
      · have set : (paste.toNat != 0) = true := bne_iff_ne.mpr fun h => zero (UInt8.toNat_inj.mp h)
        simp [Bytes.ofNat, plainFlag, zero, set]
    refine ⟨encode_eq_ok.mpr ⟨_, rfl, ?_⟩, ?_⟩
    · simp only [Frame.bytes, byte, List.singleton_append]
      rw [plainPaste_append (Bytes.length_ofNat 8 _)]
      simp [encodeClipboard, prefixedText, Frame.textBytes, flag, whole, tag]
    · simp [normalised, whole]
  | setPower mode =>
    cases h
    refine ⟨encode_eq_ok.mpr ⟨_, rfl, ?_⟩, rfl⟩
    simp [Frame.bytes, plainPaste_of_ne, tag]

theorem decode_encode {m : ControlMessage} {p : Bytes} (h : m.encode = .ok p) (rest : Bytes) :
    decode (p ++ rest) = .message m.normalised rest := by
  obtain ⟨f, rfl, hf⟩ := exists_frame_of_encode h
  rw [decode_bytes, hf]

/-- The decoder accepts the grammar and nothing else, and never reads beyond a frame. A request is
read from all bytes of its frame, and encoded as the same bytes again, but for a paste flag other
than 0 and 1. No code of a pressure is lost on the way through single precision. -/
theorem decode_exact (b : Bytes) :
    (match decode b with
      | .message m rest => ∃ p, b = p ++ rest ∧ fields.run p = .ok (m, []) ∧
          m.encode = .ok (plainPaste p)
      | .malformed _ rest => rest <:+ b
      | .incomplete => True
      | .overrun => False) ∧
    (∀ m rest, decode b = .message m rest ↔
      ∃ f : Frame, b = f.bytes ++ rest ∧ f.message = .ok m) ∧
    ∀ code : UInt16, (Binary32.ofFraction16 code).toFraction16 = code := by
  refine ⟨?_, fun m rest => ⟨fun h => ?_, ?_⟩, Binary32.toFraction16_ofFraction16⟩
  · have front := front_decode b
    generalize decode b = d at front ⊢
    cases front with
    | refused => exact List.suffix_rfl
    | incomplete => trivial
    | malformed f rest => exact List.suffix_append _ _
    | message f rest h =>
      have read := f.run_fields []
      rw [List.append_nil, h] at read
      exact ⟨f.bytes, rfl, read, (encode_of_message h).1⟩
  · have front := front_decode b
    generalize decode b = d at front h
    cases front with
    | message f rest hf => cases h; exact ⟨f, rfl, hf⟩
    | refused | incomplete | malformed => cases h
  · rintro ⟨f, rfl, hf⟩
    rw [decode_bytes, hf]

end ControlMessage

end Screencast
