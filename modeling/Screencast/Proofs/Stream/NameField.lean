import Screencast.Proofs.Text.Boundary
import Screencast.Stream.NameField

/-!
The field with the name of the device. It always holds 64 bytes: the characters of the name that fit
into 63, then zeros. A name without a NUL of its own is read back up to the first zero
(`name_read_back`).
-/

namespace Screencast

/-- In an encoding of several bytes each has its top bit set, so only NUL has a zero in its own. -/
theorem zero_notMem_utf8EncodeChar {c : Char} (other : c ≠ '\x00') :
    0 ∉ String.utf8EncodeChar c := by
  have value : c.val.toNat ≠ 0 := fun zero => other (Char.toNat_inj.mp zero)
  unfold String.utf8EncodeChar
  dsimp only
  split_ifs <;>
    simp only [List.mem_cons, List.not_mem_nil, or_false, not_or, ← UInt8.toNat_inj,
      UInt8.toNat_ofNat', UInt8.toNat_zero] <;> omega

theorem zero_notMem_utf8 {text : String} (noNul : '\x00' ∉ text.toList) : 0 ∉ utf8 text := by
  rw [utf8_eq_flatMap, List.mem_flatMap]
  rintro ⟨c, inside, zero⟩
  have other : c ≠ '\x00' := fun nul => noNul (nul ▸ inside)
  exact zero_notMem_utf8EncodeChar other zero

/-- The name in a field: what stands before the first zero. -/
def nameIn? (field : Bytes) : Option String := utf8? (field.takeWhile (· ≠ 0))

/-- What follows the name is at least one zero, and nothing else. -/
theorem nameField_padded (name : String) :
    ∃ padding, 0 < padding ∧ (Text.truncate name 63).utf8ByteSize + padding = nameFieldSize ∧
      nameField name = utf8 (Text.truncate name 63) ++ List.replicate padding 0 := by
  have fits := (Text.truncate_longest name 63).fits
  refine ⟨nameFieldSize - (Text.truncate name 63).utf8ByteSize, ?_, ?_, rfl⟩ <;>
    simp only [nameFieldSize] <;> omega

theorem nameIn?_padded {text : String} (noNul : '\x00' ∉ text.toList) (padding : Nat) :
    nameIn? (utf8 text ++ List.replicate (padding + 1) 0) = some text := by
  have front : ∀ b ∈ utf8 text, decide (b ≠ 0) = true := by
    intro b inside
    exact decide_eq_true fun zero => zero_notMem_utf8 noNul (zero ▸ inside)
  rw [nameIn?, List.takeWhile_append_of_pos front, List.replicate_succ,
    List.takeWhile_cons_of_neg (by decide), List.append_nil, utf8?_utf8]

/-- The search for the cut succeeds for every text and limit and keeps as much as fits, the same as
counting characters does; so the name field holds a whole part of the name. -/
theorem name_read_back (text name : String) (max : Nat) :
    (Text.cutDownward? text max = some (utf8 (Text.truncate text max)) ∧
      Text.LongestFitting max text (Text.truncate text max)) ∧
    (nameField name).length = 64 ∧
    (∃ padding, 0 < padding ∧
      nameField name = utf8 (Text.truncate name 63) ++ List.replicate padding 0) ∧
    ('\x00' ∉ name.toList → nameIn? (nameField name) = some (Text.truncate name 63)) := by
  obtain ⟨padding, positive, size, padded⟩ := nameField_padded name
  refine ⟨⟨Text.cutDownward?_eq text max, Text.truncate_longest text max⟩, ?_,
    ⟨padding, positive, padded⟩, ?_⟩
  · rw [padded, List.length_append, length_utf8, List.length_replicate]
    exact size
  · intro noNul
    have within := (Text.truncate_longest name 63).begins
    have noNul : '\x00' ∉ (Text.truncate name 63).toList := fun nul => noNul (within.mem nul)
    rw [padded, ← Nat.succ_pred_eq_of_pos positive]
    exact nameIn?_padded noNul padding.pred

/-- A limit inside a character of four bytes, and a name of two-byte characters that does not end at
the 63rd byte. -/
theorem name_read_back_between :
    Text.cutDownward? "a€😀" 6 = some (utf8 "a€") ∧
    '\x00' ∉ (String.ofList (List.replicate 40 'é')).toList ∧
    nameIn? (nameField (String.ofList (List.replicate 40 'é'))) =
      some (String.ofList (List.replicate 31 'é')) := by
  have cut : Text.truncate "a€😀" 6 = "a€" := by decide +kernel
  have name : Text.truncate (String.ofList (List.replicate 40 'é')) 63 =
      String.ofList (List.replicate 31 'é') := by decide +kernel
  have noNul : '\x00' ∉ (String.ofList (List.replicate 40 'é')).toList := by simp
  obtain ⟨⟨searched, -⟩, -, -, read⟩ :=
    name_read_back "a€😀" (String.ofList (List.replicate 40 'é')) 6
  exact ⟨cut ▸ searched, noNul, name ▸ read noNul⟩

end Screencast
