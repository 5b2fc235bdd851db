import Mathlib.Data.String.Basic
import Screencast.Text.Truncate

/-!
Cutting a text keeps as many whole characters as fit: `truncate_longest`.
-/

namespace Screencast.Text

open String (utf8Len)

/-- `cut` is the longest of the texts that `text` begins with and that take at most `max` bytes. -/
structure LongestFitting (max : Nat) (text cut : String) : Prop where
  begins : cut.toList <+: text.toList
  fits : cut.utf8ByteSize ≤ max
  longest : ∀ other : String, other.toList <+: text.toList → other.utf8ByteSize ≤ max →
    other.toList <+: cut.toList

theorem fitting_spec (room : Nat) (cs : List Char) (count : Nat) :
    ∃ n, fitting room cs count = count + n ∧ utf8Len (cs.take n) ≤ room ∧
      ∀ other, other <+: cs → utf8Len other ≤ room → other <+: cs.take n := by
  induction cs generalizing room count with
  | nil => exact ⟨0, rfl, by simp, fun other h _ => by simpa using h⟩
  | cons c cs ih =>
    by_cases fits : c.utf8Size ≤ room
    · obtain ⟨n, hn, hroom, hlongest⟩ := ih (room - c.utf8Size) (count + 1)
      refine ⟨n + 1, ?_, ?_, ?_⟩
      · rw [fitting, if_pos fits, hn]
        omega
      · rw [List.take_succ_cons, String.utf8Len_cons]
        omega
      · intro other begins small
        rw [List.take_succ_cons]
        obtain rfl | ⟨tail, rfl, inside⟩ := List.prefix_cons_iff.mp begins
        · exact List.nil_prefix
        · rw [String.utf8Len_cons] at small
          exact List.cons_prefix_cons.mpr ⟨rfl, hlongest tail inside (by omega)⟩
    · refine ⟨0, by rw [fitting, if_neg fits]; rfl, by simp, ?_⟩
      intro other begins small
      obtain rfl | ⟨tail, rfl, _⟩ := List.prefix_cons_iff.mp begins
      · exact List.nil_prefix
      · rw [String.utf8Len_cons] at small
        omega

theorem truncate_longest (text : String) (max : Nat) :
    LongestFitting max text (truncate text max) := by
  unfold truncate
  split
  · rename_i small
    exact ⟨List.prefix_rfl, small, fun _ begins _ => begins⟩
  · obtain ⟨n, hn, hroom, hlongest⟩ := fitting_spec max text.toList 0
    rw [hn, Nat.zero_add]
    refine ⟨?_, ?_, ?_⟩
    · simpa using List.take_prefix n text.toList
    · simpa [String.utf8ByteSize_ofList] using hroom
    · intro other begins small
      rw [← String.utf8Len_toList] at small
      simpa using hlongest other.toList begins small

theorem truncate_of_le {text : String} {max : Nat} (small : text.utf8ByteSize ≤ max) :
    truncate text max = text :=
  if_pos small

end Screencast.Text
