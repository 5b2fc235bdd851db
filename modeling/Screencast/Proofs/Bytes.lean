import Mathlib.Algebra.Group.Nat.Defs
import Mathlib.Tactic.Common
import Screencast.Bytes

/-!
Words and texts as bytes. A word is read back modulo its width (`toNat_ofNat`), any bytes are the
word that they spell, and the bytes of a text are read back as that text and no other. Words and
other items can be read off the front of a byte string.
-/

namespace Screencast

namespace Bytes

@[simp] theorem toNat_nil : toNat [] = 0 := rfl

theorem foldl_toNat (bytes : Bytes) (n : Nat) :
    bytes.foldl (fun n b => n * 256 + b.toNat) n = n * 256 ^ bytes.length + toNat bytes := by
  induction bytes generalizing n with
  | nil => simp
  | cons b bytes ih =>
    simp only [toNat, List.foldl_cons, List.length_cons, Nat.zero_mul, Nat.zero_add]
    rw [ih, ih b.toNat]
    grind

theorem toNat_cons (b : UInt8) (bytes : Bytes) :
    toNat (b :: bytes) = b.toNat * 256 ^ bytes.length + toNat bytes := by
  simpa [toNat] using foldl_toNat bytes b.toNat

theorem toNat_ofNat (width n : Nat) : toNat (ofNat width n) = n % 256 ^ width := by
  induction width with
  | zero => simp [ofNat, Nat.mod_one]
  | succ width ih =>
    have base : 2 ^ (8 * width) = 256 ^ width := by rw [Nat.pow_mul]
    have head : (UInt8.ofNat (n >>> (8 * width))).toNat = n / 256 ^ width % 256 := by
      simp [Nat.shiftRight_eq_div_pow, base]
    rw [ofNat, toNat_cons, ih, length_ofNat, head, Nat.pow_succ, Nat.mod_mul, Nat.mul_comm,
      Nat.add_comm]

theorem toNat_lt (bytes : Bytes) : toNat bytes < 256 ^ bytes.length := by
  induction bytes with
  | nil => simp
  | cons b bytes ih =>
    have top : b.toNat + 1 ≤ 256 := b.toNat_lt
    have scaled := Nat.mul_le_mul_right (256 ^ bytes.length) top
    rw [toNat_cons, List.length_cons, Nat.pow_succ]
    lia

theorem toNat_inj {a b : Bytes} (same : a.length = b.length) (h : toNat a = toNat b) : a = b := by
  induction a generalizing b with
  | nil => exact (List.eq_nil_of_length_eq_zero same.symm).symm
  | cons x a ih =>
    cases b with
    | nil => simp at same
    | cons y b =>
      have tails : a.length = b.length := by simpa using same
      rw [toNat_cons, toNat_cons, ← tails, Nat.mul_comm, Nat.mul_comm y.toNat] at h
      have ha := toNat_lt a
      have hb := tails ▸ toNat_lt b
      have heads : x.toNat = y.toNat := by
        have pos : 0 < 256 ^ a.length := Nat.pow_pos (by decide)
        have quotients := congrArg (· / 256 ^ a.length) h
        simpa only [Nat.mul_add_div pos, Nat.div_eq_of_lt ha, Nat.div_eq_of_lt hb,
          Nat.add_zero] using quotients
      have rests : toNat a = toNat b := by rw [heads] at h; lia
      rw [UInt8.toNat_inj.mp heads, ih tails rests]

theorem ofNat_toNat (bytes : Bytes) : ofNat bytes.length (toNat bytes) = bytes := by
  apply toNat_inj (length_ofNat _ _)
  rw [toNat_ofNat, Nat.mod_eq_of_lt (toNat_lt bytes)]

/-- Whatever stands at the front of a buffer is some word. -/
theorem exists_word {width : Nat} {buffer : Bytes} (enough : width ≤ buffer.length) :
    ∃ n < 256 ^ width, ∃ rest, buffer = ofNat width n ++ rest := by
  have hl : (buffer.take width).length = width := List.length_take_of_le enough
  refine ⟨toNat (buffer.take width), ?_, buffer.drop width, ?_⟩
  · simpa [hl] using toNat_lt (buffer.take width)
  · have front := ofNat_toNat (buffer.take width)
    rw [hl] at front
    rw [front, List.take_append_drop]

theorem exists_u8 {n : Nat} {b : Bytes} (h : b.length = n + 1) :
    ∃ (x : UInt8) (rest : Bytes), b = ofNat 1 x.toNat ++ rest ∧ rest.length = n := by
  obtain ⟨w, small, rest, rfl⟩ := exists_word (show 1 ≤ b.length by omega)
  have value : (UInt8.ofNat w).toNat = w := UInt8.toNat_ofNat_of_lt' small
  exact ⟨.ofNat w, rest, by rw [value], by simp at h; omega⟩

theorem exists_u16 {n : Nat} {b : Bytes} (h : b.length = n + 2) :
    ∃ (x : UInt16) (rest : Bytes), b = ofNat 2 x.toNat ++ rest ∧ rest.length = n := by
  obtain ⟨w, small, rest, rfl⟩ := exists_word (show 2 ≤ b.length by omega)
  have value : (UInt16.ofNat w).toNat = w := UInt16.toNat_ofNat_of_lt' small
  exact ⟨.ofNat w, rest, by rw [value], by simp at h; omega⟩

theorem exists_u32 {n : Nat} {b : Bytes} (h : b.length = n + 4) :
    ∃ (x : UInt32) (rest : Bytes), b = ofNat 4 x.toNat ++ rest ∧ rest.length = n := by
  obtain ⟨w, small, rest, rfl⟩ := exists_word (show 4 ≤ b.length by omega)
  have value : (UInt32.ofNat w).toNat = w := UInt32.toNat_ofNat_of_lt' small
  exact ⟨.ofNat w, rest, by rw [value], by simp at h; omega⟩

theorem exists_u64 {n : Nat} {b : Bytes} (h : b.length = n + 8) :
    ∃ (x : UInt64) (rest : Bytes), b = ofNat 8 x.toNat ++ rest ∧ rest.length = n := by
  obtain ⟨w, small, rest, rfl⟩ := exists_word (show 8 ≤ b.length by omega)
  have value : (UInt64.ofNat w).toNat = w := UInt64.toNat_ofNat_of_lt' small
  exact ⟨.ofNat w, rest, by rw [value], by simp at h; omega⟩

theorem exists_i16 {n : Nat} {b : Bytes} (h : b.length = n + 2) :
    ∃ (x : Int16) (rest : Bytes), b = ofNat 2 x.toUInt16.toNat ++ rest ∧ rest.length = n := by
  obtain ⟨x, rest, rfl, hn⟩ := exists_u16 h
  exact ⟨x.toInt16, rest, by simp, hn⟩

theorem exists_i32 {n : Nat} {b : Bytes} (h : b.length = n + 4) :
    ∃ (x : Int32) (rest : Bytes), b = ofNat 4 x.toUInt32.toNat ++ rest ∧ rest.length = n := by
  obtain ⟨x, rest, rfl, hn⟩ := exists_u32 h
  exact ⟨x.toInt32, rest, by simp, hn⟩

theorem split?_eq_some {n : Nat} {buffer front rest : Bytes} :
    buffer.split? n = some (front, rest) ↔ buffer = front ++ rest ∧ front.length = n := by
  constructor
  · intro h
    simp only [split?, List.splitAt_eq] at h
    split at h
    · rename_i full
      obtain ⟨rfl, rfl⟩ := Prod.mk.inj (Option.some.inj h)
      exact ⟨(List.take_append_drop n buffer).symm, full⟩
    · cases h
  · rintro ⟨rfl, rfl⟩
    exact split?_append front rest

theorem split?_eq_none {n : Nat} {buffer : Bytes} :
    buffer.split? n = none ↔ buffer.length < n := by
  simp only [split?, List.splitAt_eq, ite_eq_right_iff, reduceCtorEq, imp_false, List.length_take]
  omega

/-- A word of this many bytes, and what follows it. -/
def word? (width : Nat) (bytes : Bytes) : Option (Nat × Bytes) :=
  (bytes.split? width).map fun (front, rest) => (toNat front, rest)

theorem word?_ofNat {width n : Nat} (h : n < 256 ^ width) (rest : Bytes) :
    word? width (ofNat width n ++ rest) = some (n, rest) := by
  have front : split? width (ofNat width n ++ rest) = some (ofNat width n, rest) :=
    split?_eq_some.mpr ⟨rfl, length_ofNat width n⟩
  simp [word?, front, toNat_ofNat, Nat.mod_eq_of_lt h]

/-- Items one after the other until the bytes end, each of a byte or more. -/
def items? {α : Type} (item? : Bytes → Option (α × Bytes)) (bytes : Bytes) : Option (List α) :=
  if bytes = [] then some []
  else
    match item? bytes with
    | none => none
    | some (item, rest) =>
      if rest.length < bytes.length then (items? item? rest).map (item :: ·) else none
termination_by bytes.length

@[simp] theorem items?_nil {α : Type} (item? : Bytes → Option (α × Bytes)) :
    items? item? [] = some [] := by
  rw [items?, if_pos rfl]

theorem items?_of_item {α : Type} {item? : Bytes → Option (α × Bytes)} {bytes rest : Bytes}
    {item : α} (h : item? bytes = some (item, rest)) (shorter : rest.length < bytes.length) :
    items? item? bytes = (items? item? rest).map (item :: ·) := by
  have some : bytes ≠ [] := List.ne_nil_of_length_pos (by omega)
  rw [items?, if_neg some]
  simp only [h, if_pos shorter]

end Bytes

@[simp] theorem length_utf8 (text : String) : (utf8 text).length = text.utf8ByteSize := rfl

theorem utf8?_eq_some {bytes : Bytes} {text : String} :
    utf8? bytes = some text ↔ utf8 text = bytes := by
  constructor
  · intro h
    simp only [utf8?, String.fromUTF8?, Option.dite_none_right_eq_some] at h
    obtain ⟨valid, h⟩ := h
    rw [← Option.some.inj h]
    rfl
  · rintro rfl
    have same : (⟨(utf8 text).toArray⟩ : ByteArray) = text.toByteArray := by simp [utf8]
    simp only [utf8?, same, String.fromUTF8?, text.isValidUTF8, ↓reduceDIte]
    rfl

@[simp] theorem utf8?_utf8 (text : String) : utf8? (utf8 text) = some text :=
  utf8?_eq_some.mpr rfl

theorem utf8_append (a b : String) : utf8 (a ++ b) = utf8 a ++ utf8 b := by
  simp [utf8]

theorem utf8_eq_flatMap (text : String) :
    utf8 text = text.toList.flatMap String.utf8EncodeChar := by
  have bytes : text.toUTF8 = text.toList.utf8Encode := by simp
  rw [utf8, bytes, List.utf8Encode]
  simp

end Screencast
