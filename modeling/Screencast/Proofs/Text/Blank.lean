import Mathlib.Data.List.DropRight
import Screencast.Text.Blank

/-!
Trimming takes away white space at both ends and nothing else (`exists_padding`), so that it makes no
difference what is trimmed first (`trimChars_padded`).
-/

namespace Screencast.Text

def Blank (cs : List Char) : Prop := ∀ c ∈ cs, isBlank c = true

variable {cs front back : List Char}

theorem isBlank_of_isDigit {c : Char} (digit : c.isDigit = true) : isBlank c = false := by
  simp only [Char.isDigit, Bool.and_eq_true, decide_eq_true_eq, ge_iff_le,
    UInt32.le_iff_toNat_le] at digit
  obtain ⟨low, high⟩ := digit
  change 48 ≤ c.toNat at low
  change c.toNat ≤ 57 at high
  rw [Bool.eq_false_iff]
  intro blank
  simp only [isBlank, Bool.or_eq_true, Bool.and_eq_true, decide_eq_true_eq, beq_iff_eq] at blank
  omega

theorem trimChars_eq (cs : List Char) :
    trimChars cs = (cs.dropWhile isBlank).rdropWhile isBlank := rfl

theorem trimChars_of_ends (front : ∀ c ∈ cs.head?, isBlank c = false)
    (back : ∀ c ∈ cs.getLast?, isBlank c = false) : trimChars cs = cs := by
  have kept : cs.dropWhile isBlank = cs := by
    cases cs with
    | nil => rfl
    | cons c rest => exact List.dropWhile_cons_of_neg (by simpa using front c rfl)
  rw [trimChars_eq, kept, List.rdropWhile_eq_self_iff]
  intro some
  exact ne_true_of_eq_false (back _ (List.getLast?_eq_getLast_of_ne_nil some))

theorem exists_padding (cs : List Char) :
    ∃ front back, Blank front ∧ Blank back ∧ cs = front ++ trimChars cs ++ back := by
  refine ⟨cs.takeWhile isBlank, (cs.dropWhile isBlank).rtakeWhile isBlank,
    fun _ => List.mem_takeWhile_imp, fun _ => List.mem_rtakeWhile_imp, ?_⟩
  rw [trimChars_eq, List.append_assoc, List.rdropWhile_append_rtakeWhile,
    List.takeWhile_append_dropWhile]

theorem trimChars_append (blank : Blank back) (cs : List Char) :
    trimChars (cs ++ back) = trimChars cs := by
  rw [trimChars_eq, trimChars_eq, List.dropWhile_append]
  split
  · rename_i none
    rw [List.isEmpty_iff.mp none, List.dropWhile_eq_nil_iff.mpr blank]
  · rw [List.rdropWhile, List.reverse_append, List.dropWhile_append_of_pos, List.rdropWhile]
    intro c mem
    exact blank c (List.mem_reverse.mp mem)

theorem trimChars_padded (blankFront : Blank front) (blankBack : Blank back) (cs : List Char) :
    trimChars (front ++ cs ++ back) = trimChars cs := by
  rw [trimChars_append blankBack, trimChars_eq, List.dropWhile_append_of_pos blankFront]
  rfl

theorem trimChars_eq_nil_iff : trimChars cs = [] ↔ Blank cs := by
  constructor
  · intro none
    obtain ⟨front, back, blankFront, blankBack, whole⟩ := exists_padding cs
    rw [whole, none, List.append_nil]
    intro c mem
    exact (List.mem_append.mp mem).elim (blankFront c) (blankBack c)
  · intro blank
    exact trimChars_append blank []

theorem blank_trimChars_iff : Blank (trimChars cs) ↔ Blank cs := by
  constructor
  · intro blank
    obtain ⟨front, back, blankFront, blankBack, whole⟩ := exists_padding cs
    rw [← trimChars_eq_nil_iff, whole, trimChars_padded blankFront blankBack]
    exact trimChars_eq_nil_iff.mpr blank
  · intro blank
    rw [trimChars_eq_nil_iff.mpr blank]
    exact List.forall_mem_nil _

theorem isEmpty_trim_iff {text : String} : (trim text).isEmpty = true ↔ Blank text.toList := by
  rw [String.isEmpty_iff, trim, ← String.ofList_nil, String.ofList_inj, trimChars_eq_nil_iff]

end Screencast.Text
