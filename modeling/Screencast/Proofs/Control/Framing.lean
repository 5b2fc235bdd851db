import Screencast.Proofs.Bytes
import Screencast.Proofs.Control.Draining

/-!
Fields read back from the words that were written, and messages split off by their length. A length
that is settled by the front of a buffer makes decoding incremental (`Framing.incremental`).
-/

namespace Screencast

/-! ### Fields -/

@[simp] theorem Except.pure_eq_ok {ε α : Type} (a : α) : (pure a : Except ε α) = .ok a := rfl

@[simp] theorem Except.throw_eq_error {ε α : Type} (e : ε) :
    (throw e : Except ε α) = .error e := rfl

@[simp] theorem Except.ok_bind {ε α β : Type} (a : α) (f : α → Except ε β) :
    (Except.ok a >>= f) = f a := rfl

@[simp] theorem Except.error_bind {ε α β : Type} (e : ε) (f : α → Except ε β) :
    (Except.error e >>= f) = Except.error e := rfl

namespace FieldReader

theorem run_bytes {n : Nat} {front rest : Bytes} (full : front.length = n) :
    (bytes n).run (front ++ rest) = .ok (front, rest) := by
  have h : Bytes.split? n (front ++ rest) = some (front, rest) :=
    Bytes.split?_eq_some.mpr ⟨rfl, full⟩
  simp only [StateT.run, bytes, h]

@[simp] theorem run_word (width n : Nat) (rest : Bytes) :
    (word width).run (Bytes.ofNat width n ++ rest) = .ok (n % 256 ^ width, rest) := by
  simp [word, run_bytes (Bytes.length_ofNat width n), Bytes.toNat_ofNat]

@[simp] theorem run_tag (tag : UInt8) (rest : Bytes) :
    (word 1).run (tag :: rest) = .ok (tag.toNat, rest) := by
  have one : tag :: rest = Bytes.ofNat 1 tag.toNat ++ rest := by simp [Bytes.ofNat]
  rw [one, run_word, Nat.mod_eq_of_lt (show tag.toNat < 256 ^ 1 from tag.toNat_lt)]

@[simp] theorem run_u8 (x : UInt8) (rest : Bytes) :
    u8.run (Bytes.ofNat 1 x.toNat ++ rest) = .ok (x, rest) := by
  simp [u8]

@[simp] theorem run_u16 (x : UInt16) (rest : Bytes) :
    u16.run (Bytes.ofNat 2 x.toNat ++ rest) = .ok (x, rest) := by
  simp [u16]

@[simp] theorem run_u32 (x : UInt32) (rest : Bytes) :
    u32.run (Bytes.ofNat 4 x.toNat ++ rest) = .ok (x, rest) := by
  simp [u32]

@[simp] theorem run_u64 (x : UInt64) (rest : Bytes) :
    u64.run (Bytes.ofNat 8 x.toNat ++ rest) = .ok (x, rest) := by
  simp [u64]

@[simp] theorem run_i16 (x : Int16) (rest : Bytes) :
    i16.run (Bytes.ofNat 2 x.toUInt16.toNat ++ rest) = .ok (x, rest) := by
  simp [i16]

@[simp] theorem run_i32 (x : Int32) (rest : Bytes) :
    i32.run (Bytes.ofNat 4 x.toUInt32.toNat ++ rest) = .ok (x, rest) := by
  simp [i32]

/-- A text field is read if its bytes are UTF-8, and a fault if they are not. -/
theorem run_prefixedText {content : Bytes} (short : content.length < 2 ^ 32) (rest : Bytes) :
    prefixedText.run (Bytes.ofNat 4 content.length ++ content ++ rest) =
      match utf8? content with
      | some text => .ok (text, rest)
      | none => .error (.malformed .invalidUtf8) := by
  have size : content.length % 256 ^ 4 = content.length := Nat.mod_eq_of_lt short
  simp only [prefixedText, text, StateT.run_bind, List.append_assoc, run_word, size,
    Except.ok_bind, run_bytes rfl]
  cases utf8? content <;> rfl

end FieldReader

/-! ### Frames -/

/-- What the fields of a split off frame come to. -/
def Decoded.ofFields {μ : Type} (rest : Bytes) : Except FieldFault (μ × Bytes) → Decoded μ
  | .ok (m, _) => .message m rest
  | .error (.malformed e) => .malformed e rest
  | .error .overrun => .overrun

theorem Decoded.extend_ofFields {μ : Type} (rest c : Bytes) (read : Except FieldFault (μ × Bytes)) :
    (ofFields rest read).extend c = ofFields (rest ++ c) read := by
  rcases read with (_ | _) | ⟨_, _⟩ <;> rfl

theorem Decoded.ofFields_ne_incomplete {μ : Type} (rest : Bytes)
    (read : Except FieldFault (μ × Bytes)) : ofFields rest read ≠ .incomplete := by
  rcases read with (_ | _) | ⟨_, _⟩ <;> nofun

theorem Decoded.rest_of_ofFields {μ : Type} {rest r : Bytes} {m : μ}
    {read : Except FieldFault (μ × Bytes)} (h : ofFields rest read = .message m r) : r = rest := by
  rcases read with (_ | _) | ⟨_, _⟩ <;> cases h
  rfl

section

variable {μ : Type} {length : Bytes → Except MessageFault (Option Nat)} {fields : FieldReader μ}

/-- How an attempt at the front of a buffer can go. -/
inductive Decoded.Attempt (length : Bytes → Except MessageFault (Option Nat))
    (fields : FieldReader μ) : Bytes → Decoded μ → Prop where
  | refused {b : Bytes} {e : MessageFault} : length b = .error e →
      Decoded.Attempt length fields b (.malformed e b)
  | undecided {b : Bytes} : length b = .ok none → Decoded.Attempt length fields b .incomplete
  | short {b : Bytes} {n : Nat} : length b = .ok (some n) → b.length < n →
      Decoded.Attempt length fields b .incomplete
  | framed {frame rest : Bytes} : length (frame ++ rest) = .ok (some frame.length) →
      Decoded.Attempt length fields (frame ++ rest) (.ofFields rest (fields.run frame))

theorem decodeFrame_framed {frame rest : Bytes}
    (h : length (frame ++ rest) = .ok (some frame.length)) :
    decodeFrame length fields (frame ++ rest) = .ofFields rest (fields.run frame) := by
  have split : Bytes.split? frame.length (frame ++ rest) = some (frame, rest) :=
    Bytes.split?_append frame rest
  simp only [decodeFrame, h, split]
  rcases fields.run frame with (_ | _) | ⟨_, _⟩ <;> rfl

theorem attempt_decodeFrame (length : Bytes → Except MessageFault (Option Nat))
    (fields : FieldReader μ) (b : Bytes) :
    Decoded.Attempt length fields b (decodeFrame length fields b) := by
  cases h : length b with
  | error e => simpa only [decodeFrame, h] using Decoded.Attempt.refused h
  | ok n? =>
    cases n? with
    | none => simpa only [decodeFrame, h] using Decoded.Attempt.undecided h
    | some n =>
      cases split : b.split? n with
      | none =>
        have less := Bytes.split?_eq_none.mp split
        simpa only [decodeFrame, h, split] using Decoded.Attempt.short h less
      | some parts =>
        obtain ⟨frame, rest⟩ := parts
        obtain ⟨rfl, rfl⟩ := Bytes.split?_eq_some.mp split
        rw [decodeFrame_framed h]
        exact .framed h

/-- What the length of a message at the front of a buffer owes to its decoder: it is settled once
and for all, by fewer bytes than `max`, and lies within `max`. -/
structure Framing (length : Bytes → Except MessageFault (Option Nat)) (max : Nat) : Prop where
  empty : length [] = .ok none
  settled {b : Bytes} : length b ≠ .ok none → ∀ c, length (b ++ c) = length b
  early {b : Bytes} : length b = .ok none → b.length < max
  within {b : Bytes} {n : Nat} : length b = .ok (some n) → 0 < n ∧ n ≤ max

namespace Framing

variable {max : Nat}

theorem length_lt_of_incomplete (framing : Framing length max) {b : Bytes}
    (h : decodeFrame length fields b = .incomplete) : b.length < max := by
  have attempt := attempt_decodeFrame length fields b
  generalize decodeFrame length fields b = d at h attempt
  cases attempt with
  | refused => cases h
  | undecided none => exact framing.early none
  | short some less => exact Nat.lt_of_lt_of_le less (framing.within some).2
  | framed => exact absurd h (Decoded.ofFields_ne_incomplete _ _)

theorem decodeFrame_append (framing : Framing length max) {b : Bytes}
    (h : decodeFrame length fields b ≠ .incomplete) (c : Bytes) :
    decodeFrame length fields (b ++ c) = (decodeFrame length fields b).extend c := by
  have attempt := attempt_decodeFrame length fields b
  generalize decodeFrame length fields b = d at h attempt ⊢
  cases attempt with
  | refused error =>
    have longer : length (b ++ c) = length b := framing.settled (by simp [error]) c
    simp only [decodeFrame, longer, error, Decoded.extend]
  | undecided | short => exact absurd rfl h
  | @framed frame rest some =>
    have longer : length (frame ++ (rest ++ c)) = length (frame ++ rest) := by
      rw [← List.append_assoc]
      exact framing.settled (by simp [some]) c
    rw [List.append_assoc, decodeFrame_framed (longer.trans some), Decoded.extend_ofFields]

theorem length_lt_of_message (framing : Framing length max) {b r : Bytes} {m : μ}
    (h : decodeFrame length fields b = .message m r) : r.length < b.length := by
  have attempt := attempt_decodeFrame length fields b
  generalize decodeFrame length fields b = d at h attempt
  cases attempt with
  | refused | undecided | short => cases h
  | framed some =>
    rw [Decoded.rest_of_ofFields h]
    simp [(framing.within some).1]

theorem incremental (framing : Framing length max) :
    Decoded.Incremental (decodeFrame length fields) where
  empty := by simp only [decodeFrame, framing.empty]
  append := framing.decodeFrame_append
  shorter := framing.length_lt_of_message

end Framing

end

end Screencast
