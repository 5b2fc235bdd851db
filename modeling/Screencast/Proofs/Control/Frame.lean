import Screencast.Control.Wire
import Screencast.Proofs.Control.Framing

/-!
The grammar of the control channel: the twelve layouts of a request, field by field as they stand
on the wire, and what each means; and what the first bytes of a request say about its length.
-/

namespace Screencast

/-- A position on the wire. -/
structure Spot where
  x : Int32
  y : Int32
  width : UInt16
  height : UInt16

namespace Spot

def bytes (s : Spot) : Bytes :=
  Bytes.ofNat 4 s.x.toUInt32.toNat ++ (Bytes.ofNat 4 s.y.toUInt32.toNat ++
    (Bytes.ofNat 2 s.width.toNat ++ Bytes.ofNat 2 s.height.toNat))

def position (s : Spot) : Position := ⟨s.x, s.y, s.width.toUInt32, s.height.toUInt32⟩

@[simp] theorem length_bytes (s : Spot) : s.bytes.length = 12 := by simp [bytes]

@[simp] theorem run_read (s : Spot) (rest : Bytes) :
    Position.read.run (s.bytes ++ rest) = .ok (s.position, rest) := by
  simp [Position.read, bytes, position]

theorem exists_spot {n : Nat} {b : Bytes} (h : b.length = n + 12) :
    ∃ (s : Spot) (rest : Bytes), b = s.bytes ++ rest ∧ rest.length = n := by
  obtain ⟨x, b, rfl, h₁⟩ := Bytes.exists_i32 h
  obtain ⟨y, b, rfl, h₂⟩ := Bytes.exists_i32 h₁
  obtain ⟨width, b, rfl, h₃⟩ := Bytes.exists_u16 h₂
  obtain ⟨height, b, rfl, h₄⟩ := Bytes.exists_u16 h₃
  exact ⟨⟨x, y, width, height⟩, b, by simp [bytes], h₄⟩

end Spot

/-- A request as it stands on the wire. Texts are any bytes that are not too long, a copy key and
a paste flag any byte. -/
inductive Frame where
  | key (key : KeyEvent)
  | typeText (content : Bytes) (fits : content.length ≤ typedTextMax)
  | touch (action : UInt8) (pointerId : UInt64) (spot : Spot) (pressure : UInt16)
      (actionButton buttons : UInt32)
  | scroll (spot : Spot) (horizontal vertical : Int16) (buttons : UInt32)
  | backOrWake (action : UInt8)
  | openNotifications
  | openSettings
  | closePanels
  | fetchClipboard (code : UInt8)
  | fillClipboard (sequence : UInt64) (paste : UInt8) (content : Bytes)
      (fits : content.length ≤ clipboardTextMax)
  | setPower (mode : UInt8)
  | rotate

namespace Frame

def textBytes (content : Bytes) : Bytes := Bytes.ofNat 4 content.length ++ content

def bytes : Frame → Bytes
  | key k => 0 :: (Bytes.ofNat 1 k.action.toNat ++ (Bytes.ofNat 4 k.keycode.toNat ++
      (Bytes.ofNat 4 k.repeats.toNat ++ Bytes.ofNat 4 k.metastate.toNat)))
  | typeText content _ => 1 :: textBytes content
  | touch action pointerId spot pressure actionButton buttons =>
    2 :: (Bytes.ofNat 1 action.toNat ++ (Bytes.ofNat 8 pointerId.toNat ++ (spot.bytes ++
      (Bytes.ofNat 2 pressure.toNat ++ (Bytes.ofNat 4 actionButton.toNat ++
        Bytes.ofNat 4 buttons.toNat)))))
  | scroll spot horizontal vertical buttons =>
    3 :: (spot.bytes ++ (Bytes.ofNat 2 horizontal.toUInt16.toNat ++
      (Bytes.ofNat 2 vertical.toUInt16.toNat ++ Bytes.ofNat 4 buttons.toNat)))
  | backOrWake action => 4 :: Bytes.ofNat 1 action.toNat
  | openNotifications => [5]
  | openSettings => [6]
  | closePanels => [7]
  | fetchClipboard code => 8 :: Bytes.ofNat 1 code.toNat
  | fillClipboard sequence paste content _ =>
    9 :: (Bytes.ofNat 8 sequence.toNat ++ (Bytes.ofNat 1 paste.toNat ++ textBytes content))
  | setPower mode => 10 :: Bytes.ofNat 1 mode.toNat
  | rotate => [11]

/-- The meaning of a text field. -/
def textOf (content : Bytes) : Except MessageFault String :=
  match utf8? content with
  | some text => .ok text
  | none => .error .invalidUtf8

/-- What a frame asks for, or what is wrong with it. -/
def message : Frame → Except MessageFault ControlMessage
  | key k => .ok (.key k)
  | typeText content _ => (textOf content).map .typeText
  | touch action pointerId spot pressure actionButton buttons =>
    .ok (.touch ⟨action, pointerId, spot.position, .ofFraction16 pressure, actionButton, buttons⟩)
  | scroll spot horizontal vertical buttons =>
    .ok (.scroll ⟨spot.position, horizontal, vertical, buttons⟩)
  | backOrWake action => .ok (.backOrWake action)
  | openNotifications => .ok .openNotifications
  | openSettings => .ok .openSettings
  | closePanels => .ok .closePanels
  | fetchClipboard code =>
    match CopyKey.ofCode? code.toNat with
    | some copyKey => .ok (.fetchClipboard copyKey)
    | none => .error (.invalidCopyKey code.toNat)
  | fillClipboard sequence paste content _ =>
    (textOf content).map fun text => .fillClipboard ⟨sequence, paste.toNat != 0, text⟩
  | setPower mode => .ok (.setPower mode)
  | rotate => .ok .rotate

end Frame

/-! ### Lengths of frames -/

theorem textFrameLength_word {offset max length : Nat} {head : Bytes}
    (at_offset : head.length = offset) (small : length < 256 ^ 4) (tail : Bytes) :
    textFrameLength offset max (head ++ (Bytes.ofNat 4 length ++ tail)) =
      if length > max then .error (.textTooLong length max)
      else .ok (some (offset + 4 + length)) := by
  subst at_offset
  have field : ((head ++ (Bytes.ofNat 4 length ++ tail)).drop head.length).take 4 =
      Bytes.ofNat 4 length := by
    rw [List.drop_left, List.take_left' (Bytes.length_ofNat 4 length)]
  simp only [textFrameLength, field, Bytes.length_ofNat, Nat.lt_irrefl, ↓reduceIte,
    Bytes.toNat_ofNat, Nat.mod_eq_of_lt small]

theorem exists_textField {offset : Nat} {b : Bytes} (enough : offset + 4 ≤ b.length) :
    ∃ head length tail, head.length = offset ∧ length < 256 ^ 4 ∧
      b = head ++ (Bytes.ofNat 4 length ++ tail) := by
  have behind : 4 ≤ (b.drop offset).length := by rw [List.length_drop]; omega
  obtain ⟨length, small, tail, htail⟩ := Bytes.exists_word behind
  refine ⟨b.take offset, length, tail, List.length_take_of_le (by omega), small, ?_⟩
  rw [← htail, List.take_append_drop]

theorem textFrameLength_eq_none {offset max : Nat} {b : Bytes} (few : b.length < offset + 4) :
    textFrameLength offset max b = .ok none := by
  have : ((b.drop offset).take 4).length < 4 := by
    rw [List.length_take, List.length_drop]
    omega
  simp only [textFrameLength, this, ↓reduceIte]

/-- A length is refused or accepted only where it is there. -/
theorem exists_textField_of_settled {offset max : Nat} {b : Bytes}
    (h : textFrameLength offset max b ≠ .ok none) :
    ∃ head length tail, head.length = offset ∧ length < 256 ^ 4 ∧
      b = head ++ (Bytes.ofNat 4 length ++ tail) := by
  apply exists_textField
  by_contra few
  exact h (textFrameLength_eq_none (by omega))

theorem exists_textField_of_some {offset max n : Nat} {b : Bytes}
    (h : textFrameLength offset max b = .ok (some n)) :
    ∃ head length tail, head.length = offset ∧ b = head ++ (Bytes.ofNat 4 length ++ tail) ∧
      length ≤ max ∧ n = offset + 4 + length := by
  have settled : textFrameLength offset max b ≠ .ok none := by simp [h]
  obtain ⟨head, length, tail, hl, small, rfl⟩ := exists_textField_of_settled settled
  rw [textFrameLength_word hl small] at h
  split at h
  · cases h
  · rename_i fits
    cases h
    exact ⟨head, length, tail, hl, rfl, Nat.not_lt.mp fits, rfl⟩

theorem textFrameLength_eq_error {offset max : Nat} {b : Bytes} {e : MessageFault}
    (h : textFrameLength offset max b = .error e) : ∃ length, e = .textTooLong length max := by
  have settled : textFrameLength offset max b ≠ .ok none := by simp [h]
  obtain ⟨head, length, tail, hl, small, rfl⟩ := exists_textField_of_settled settled
  rw [textFrameLength_word hl small] at h
  split at h <;> cases h
  exact ⟨length, rfl⟩

theorem textFrameLength_framing {offset max : Nat} :
    Framing (textFrameLength offset max) (offset + 4 + max) where
  empty := textFrameLength_eq_none (by simp)
  settled h c := by
    obtain ⟨head, length, tail, hl, small, rfl⟩ := exists_textField_of_settled h
    simp only [List.append_assoc, textFrameLength_word hl small]
  early {b} h := by
    by_contra many
    have enough : offset + 4 ≤ b.length := by omega
    obtain ⟨head, length, tail, hl, small, rfl⟩ := exists_textField enough
    rw [textFrameLength_word hl small] at h
    split at h <;> cases h
  within h := by
    obtain ⟨head, length, tail, -, -, fits, rfl⟩ := exists_textField_of_some h
    omega

/-- The first byte of a message fixes its length, or says where the length of its text stands, or
is refused. -/
theorem Framing.of_tags {length : Bytes → Except MessageFault (Option Nat)} {max : Nat}
    (empty : length [] = .ok none) (pos : 0 < max)
    (rules : ∀ tag : UInt8,
      (∃ n, 0 < n ∧ n ≤ max ∧ ∀ b, length (tag :: b) = .ok (some n)) ∨
      (∃ offset limit, offset + 4 + limit ≤ max ∧
        ∀ b, length (tag :: b) = textFrameLength offset limit (tag :: b)) ∨
      ∃ e, ∀ b, length (tag :: b) = .error e) :
    Framing length max where
  empty := empty
  settled {b} h c := by
    cases b with
    | nil => exact absurd empty h
    | cons tag b =>
      rw [List.cons_append]
      obtain ⟨n, -, -, rule⟩ | ⟨offset, limit, -, rule⟩ | ⟨e, rule⟩ := rules tag
      · rw [rule, rule]
      · rw [rule] at h ⊢
        rw [rule, ← List.cons_append]
        exact textFrameLength_framing.settled h c
      · rw [rule, rule]
  early {b} h := by
    cases b with
    | nil => exact pos
    | cons tag b =>
      obtain ⟨n, -, -, rule⟩ | ⟨offset, limit, bound, rule⟩ | ⟨e, rule⟩ := rules tag
      · rw [rule] at h
        cases h
      · rw [rule] at h
        exact Nat.lt_of_lt_of_le (textFrameLength_framing.early h) bound
      · rw [rule] at h
        cases h
  within {b n} h := by
    cases b with
    | nil => rw [empty] at h; cases h
    | cons tag b =>
      obtain ⟨m, pos, le, rule⟩ | ⟨offset, limit, bound, rule⟩ | ⟨e, rule⟩ := rules tag
      · rw [rule] at h
        cases h
        exact ⟨pos, le⟩
      · rw [rule] at h
        obtain ⟨pos, le⟩ := textFrameLength_framing.within h
        exact ⟨pos, Nat.le_trans le bound⟩
      · rw [rule] at h
        cases h

/-- A text frame ends with its text. -/
theorem exists_textBytes {offset max : Nat} {p rest : Bytes}
    (h : textFrameLength offset max (p ++ rest) = .ok (some p.length)) :
    ∃ head content, head.length = offset ∧ content.length ≤ max ∧
      p = head ++ Frame.textBytes content := by
  obtain ⟨head, length, tail, hl, cut, fits, total⟩ := exists_textField_of_some h
  have whole : (head ++ Bytes.ofNat 4 length).length ≤ p.length := by
    rw [List.length_append, Bytes.length_ofNat, hl, total]
    omega
  rw [← List.append_assoc] at cut
  obtain ⟨content, rfl⟩ := List.prefix_of_prefix_length_le ⟨tail, cut.symm⟩ ⟨rest, rfl⟩ whole
  have size : content.length = length := by
    rw [List.length_append, List.length_append, Bytes.length_ofNat, hl] at total
    omega
  exact ⟨head, content, hl, size ▸ fits, by rw [Frame.textBytes, size, List.append_assoc]⟩

namespace ControlMessage

/-- What the first byte of a message says about its length. -/
inductive LengthRule (tag : UInt8) : Prop where
  | fixed (n : Nat) (bounds : 0 < n ∧ n ≤ 32) (rule : ∀ b, frameLength (tag :: b) = .ok (some n))
  | text (offset max : Nat) (bound : offset + 4 + max ≤ messageMax)
      (rule : ∀ b, frameLength (tag :: b) = textFrameLength offset max (tag :: b))
  | unknown (rule : ∀ b, frameLength (tag :: b) = .error (.unknownMessageType tag.toNat))

theorem lengthRule (tag : UInt8) : LengthRule tag := by
  match hn : tag.toNat with
  | 0 => exact .fixed 14 (by decide) fun b => by simp only [frameLength, hn]
  | 2 => exact .fixed 32 (by decide) fun b => by simp only [frameLength, hn]
  | 3 => exact .fixed 21 (by decide) fun b => by simp only [frameLength, hn]
  | 4 | 8 | 10 => exact .fixed 2 (by decide) fun b => by simp only [frameLength, hn]
  | 5 | 6 | 7 | 11 => exact .fixed 1 (by decide) fun b => by simp only [frameLength, hn]
  | 1 => exact .text 1 typedTextMax (by decide) fun b => by simp only [frameLength, hn]
  | 9 => exact .text 10 clipboardTextMax (by decide) fun b => by simp only [frameLength, hn]
  | n + 12 => exact .unknown fun b => by simp only [frameLength, hn]

theorem frameLength_framing : Framing frameLength messageMax := by
  refine .of_tags rfl (by decide) fun tag => ?_
  cases lengthRule tag with
  | fixed n bounds rule => exact .inl ⟨n, bounds.1, Nat.le_trans bounds.2 (by decide), rule⟩
  | text offset limit bound rule => exact .inr (.inl ⟨offset, limit, bound, rule⟩)
  | unknown rule => exact .inr (.inr ⟨_, rule⟩)

end ControlMessage

end Screencast
