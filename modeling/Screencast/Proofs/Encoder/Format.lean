import Mathlib.Tactic.Common
import Screencast.Encoder.Format

/-!
Values of a format after keys were set. A size that fits into signed words is read back from a
format as it was set, whatever the format held before (`size?_withSize`).
-/

namespace Screencast

namespace EncoderFormat

theorem lookup_setEntry_self (key : String) (value : OptionValue)
    (entries : List (String × OptionValue)) :
    (setEntry key value entries).lookup key = some value := by
  induction entries with
  | nil => simp [setEntry]
  | cons entry rest ih =>
    obtain ⟨k, v⟩ := entry
    by_cases same : k = key
    · simp [setEntry, same]
    · have other : (key == k) = false := by simpa using Ne.symm same
      simp [setEntry, same, List.lookup_cons, other, ih]

theorem lookup_setEntry_of_ne {key asked : String} (other : asked ≠ key) (value : OptionValue)
    (entries : List (String × OptionValue)) :
    (setEntry key value entries).lookup asked = entries.lookup asked := by
  have misses : (asked == key) = false := by simpa using other
  induction entries with
  | nil => simp [setEntry, List.lookup_cons, misses]
  | cons entry rest ih =>
    obtain ⟨k, v⟩ := entry
    by_cases same : k = key
    · subst same
      simp [setEntry, List.lookup_cons, misses]
    · simp [setEntry, same, List.lookup_cons, ih]

@[simp] theorem int?_set_self (f : EncoderFormat) (key : String) (n : Int) :
    (f.set key (.int n)).int? key = some n := by
  simp [int?, get?, set, lookup_setEntry_self]

theorem int?_set_of_ne {key asked : String} (other : asked ≠ key) (f : EncoderFormat)
    (value : OptionValue) : (f.set key value).int? asked = f.int? asked := by
  simp [int?, get?, set, lookup_setEntry_of_ne other]

theorem size?_withSize (f : EncoderFormat) {size : Size} (small : size.larger < 2147483648) :
    (f.withSize size).size? = some size := by
  have width : size.width < 2147483648 := Nat.lt_of_le_of_lt (Nat.le_max_left ..) small
  have height : size.height < 2147483648 := Nat.lt_of_le_of_lt (Nat.le_max_right ..) small
  have setWidth : (f.withSize size).int? "width" = some (size.width : Int) := by
    rw [withSize, int?_set_of_ne (by decide), int?_set_self, signed32_eq (by omega) (by omega)]
  have setHeight : (f.withSize size).int? "height" = some (size.height : Int) := by
    rw [withSize, int?_set_self, signed32_eq (by omega) (by omega)]
  simp [size?, setWidth, setHeight]

end EncoderFormat

end Screencast
