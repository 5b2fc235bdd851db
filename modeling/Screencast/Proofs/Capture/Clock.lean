import Mathlib.Data.Nat.Bitwise
import Screencast.Capture.Clock

/-!
The timestamps of captured blocks. As long as fewer than 2^46 bytes are captured, reckoning in words
of 64 bits is exact, and the timestamp of a block is that of its position, however the bytes before
it were split (`Clocked.snoc`).
-/

namespace Screencast

/-- The time in microseconds of a position in captured sound. -/
def soundTime (position : Nat) : Nat := position / 4 * 1000000 / 48000

/-- Blocks that are captured one after the other, each with the time of its position. -/
def timed (blocks : List Bytes) : List AccessUnit :=
  blocks.mapIdx fun i block => ⟨block, soundTime (blocks.take i).flatten.length, .none⟩

theorem timed_snoc (blocks : List Bytes) (block : Bytes) :
    timed (blocks ++ [block]) =
      timed blocks ++ [⟨block, soundTime blocks.flatten.length, .none⟩] := by
  have before : blocks.mapIdx (fun i b =>
        (⟨b, soundTime ((blocks ++ [block]).take i).flatten.length, .none⟩ : AccessUnit)) =
      timed blocks := by
    refine List.mapIdx_eq_mapIdx_iff.mpr fun i inside => ?_
    rw [List.take_append_of_le_length (Nat.le_of_lt inside)]
  rw [timed, List.mapIdx_append, before]
  simp

/-- Bytes of a sample that is not complete yet do not count. -/
example : (timed [[1, 2, 3, 4, 5], [6, 7, 8], [9]]).map (·.pts) = [0, 20, 41] := by decide

namespace SoundClock

theorem pts_of_lt {c : SoundClock} (short : c.bytes < 2 ^ 46) : c.pts = soundTime c.bytes := by
  have size : frameSize = 4 := rfl
  have rate : audioFormat.sampleRate = 48000 := rfl
  have words : UInt64.size = 2 ^ 64 := rfl
  rw [pts, size, rate, Nat.mod_eq_of_lt (by omega), soundTime]

theorem advance_of_lt {c : SoundClock} {length : Nat} (short : c.bytes + length < 2 ^ 46) :
    (c.advance length).bytes = c.bytes + length := by
  have words : UInt64.size = 2 ^ 64 := rfl
  exact Nat.mod_eq_of_lt (by omega)

/-- The clock has passed these blocks, and these are they with their times. -/
def Clocked (c : SoundClock) (blocks : List Bytes) (units : List AccessUnit) : Prop :=
  blocks.flatten.length < 2 ^ 46 → c.bytes = blocks.flatten.length ∧ units = timed blocks

variable {c : SoundClock} {blocks : List Bytes} {units : List AccessUnit}

theorem Clocked.snoc (clocked : c.Clocked blocks units) (block : Bytes) :
    (c.advance block.length).Clocked (blocks ++ [block]) (units ++ [⟨block, c.pts, .none⟩]) := by
  intro short
  have total : (blocks ++ [block]).flatten.length = blocks.flatten.length + block.length := by
    simp
  rw [total] at short ⊢
  obtain ⟨bytes, rfl⟩ := clocked (by omega)
  refine ⟨by rw [advance_of_lt (by omega), bytes], ?_⟩
  rw [timed_snoc, pts_of_lt (by omega), bytes]

end SoundClock

end Screencast
