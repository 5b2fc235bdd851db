import Mathlib.Data.Nat.Find
import Screencast.Proofs.Bytes
import Screencast.Proofs.Text.Truncate

/-!
The place of a cut, looked for among the bytes: from the limit downward, until a character begins.
The search comes to an end at 0 at the latest, and it keeps exactly the characters that fit
(`cutDownward?_eq`).
-/

namespace Screencast

open String (Pos.Raw)

namespace Text

/-- The last offset up to this one where a character begins or the text ends; none if the search
were to go below 0. -/
def boundaryBelow? (text : String) : Nat → Option Nat
  | 0 => if Pos.Raw.isValid text 0 then some 0 else none
  | offset + 1 =>
    if Pos.Raw.isValid text ⟨offset + 1⟩ then some (offset + 1) else boundaryBelow? text offset

/-- The bytes of a text up to the last boundary that is not beyond `max`. -/
def cutDownward? (text : String) (max : Nat) : Option Bytes :=
  if text.utf8ByteSize ≤ max then some (utf8 text)
  else (boundaryBelow? text max).map fun offset => (utf8 text).take offset

variable {max offset : Nat} {text front cut : String}

theorem begins_iff : front.toList <+: text.toList ↔ ∃ rest, text = front ++ rest := by
  constructor
  · rintro ⟨rest, whole⟩
    refine ⟨String.ofList rest, ?_⟩
    rw [← String.toList_inj, String.toList_append, String.toList_ofList, whole]
  · rintro ⟨rest, rfl⟩
    rw [String.toList_append]
    exact List.prefix_append ..

/-- The boundaries are the ends of the texts that a text begins with. -/
theorem isValid_iff_begins :
    Pos.Raw.IsValid text ⟨offset⟩ ↔
      ∃ front : String, front.toList <+: text.toList ∧ front.utf8ByteSize = offset := by
  rw [Pos.Raw.isValid_iff_exists_append]
  constructor
  · rintro ⟨front, rest, whole, ends⟩
    exact ⟨front, begins_iff.mpr ⟨rest, whole⟩, (congrArg Pos.Raw.byteIdx ends).symm⟩
  · rintro ⟨front, begins, rfl⟩
    obtain ⟨rest, whole⟩ := begins_iff.mp begins
    exact ⟨front, rest, whole, rfl⟩

/-- The start of a text is a boundary, so the search does not pass it. -/
theorem boundaryBelow?_eq (text : String) (offset : Nat) :
    boundaryBelow? text offset =
      some (Nat.findGreatest (fun n => Pos.Raw.IsValid text ⟨n⟩) offset) := by
  induction offset with
  | zero =>
    have start := Pos.Raw.isValid_eq_true_iff.mpr (Pos.Raw.isValid_zero (s := text))
    rw [boundaryBelow?, if_pos start, Nat.findGreatest_zero]
  | succ offset ih =>
    rw [boundaryBelow?, Nat.findGreatest_succ, ih]
    simp only [Pos.Raw.isValid_eq_true_iff]
    split <;> rfl

/-- Between the end of the longest text that fits and the limit there is no boundary. -/
theorem LongestFitting.findGreatest (h : LongestFitting max text cut) :
    Nat.findGreatest (fun n => Pos.Raw.IsValid text ⟨n⟩) max = cut.utf8ByteSize := by
  refine Nat.findGreatest_eq_iff.mpr ⟨h.fits, fun _ => ?_, fun n beyond within boundary => ?_⟩
  · exact isValid_iff_begins.mpr ⟨cut, h.begins, rfl⟩
  · obtain ⟨other, begins, rfl⟩ := isValid_iff_begins.mp boundary
    obtain ⟨rest, rfl⟩ := begins_iff.mp (h.longest other begins within)
    rw [String.utf8ByteSize_append] at beyond
    omega

theorem take_utf8 (begins : front.toList <+: text.toList) :
    (utf8 text).take front.utf8ByteSize = utf8 front := by
  obtain ⟨rest, rfl⟩ := begins_iff.mp begins
  rw [utf8_append, ← length_utf8]
  exact List.take_left

theorem cutDownward?_eq (text : String) (max : Nat) :
    cutDownward? text max = some (utf8 (truncate text max)) := by
  unfold cutDownward?
  split
  · rename_i small
    rw [truncate_of_le small]
  · have longest := truncate_longest text max
    rw [boundaryBelow?_eq, longest.findGreatest, Option.map_some, take_utf8 longest.begins]

end Text

end Screencast
