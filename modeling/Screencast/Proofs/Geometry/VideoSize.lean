import Mathlib.Tactic.Common
import Screencast.Geometry.VideoSize

/-!
What becomes of a picture that is brought to the encoder's grid and below a maximum. As long as the
maximum lies on the grid itself, the larger side is cut off there (`larger_forVideo`) and the axes
can be exchanged before or after (`forVideo_transpose`).
-/

namespace Screencast

theorem onGrid_le (n : Nat) : onGrid n ≤ n := Nat.div_mul_le_self n 8

theorem onGrid_mono {m n : Nat} (h : m ≤ n) : onGrid m ≤ onGrid n :=
  Nat.mul_le_mul_right 8 (Nat.div_le_div_right h)

theorem onGrid_max (m n : Nat) : onGrid (max m n) = max (onGrid m) (onGrid n) := by
  rcases Nat.le_total m n with h | h
  · rw [Nat.max_eq_right h, Nat.max_eq_right (onGrid_mono h)]
  · rw [Nat.max_eq_left h, Nat.max_eq_left (onGrid_mono h)]

theorem onGrid_add_four {n : Nat} (h : 8 ∣ n) : onGrid (n + 4) = n := by
  unfold onGrid
  omega

theorem dvd_onGrid (n : Nat) : 8 ∣ onGrid n := Nat.dvd_mul_left 8 (n / 8)

theorem scaledMinor_le_onGrid {minor major : Nat} (h : minor ≤ major) (maxSize : Nat) :
    scaledMinor minor major maxSize ≤ onGrid (maxSize + 4) := by
  have exact : minor * maxSize / major ≤ maxSize := by
    apply Nat.div_le_of_le_mul
    exact Nat.mul_le_mul_right maxSize h
  exact onGrid_mono (Nat.add_le_add_right exact 4)

theorem scaledMinor_le {minor major maxSize : Nat} (h : minor ≤ major) (grid : 8 ∣ maxSize) :
    scaledMinor minor major maxSize ≤ maxSize := by
  have rounded := scaledMinor_le_onGrid h maxSize
  rwa [onGrid_add_four grid] at rounded

/-- Rounding up does not get past a larger side that lies on the grid. -/
theorem scaledMinor_le_major {minor major maxSize : Nat} (h : minor ≤ major) (grid : 8 ∣ major)
    (lower : maxSize < major) : scaledMinor minor major maxSize ≤ major := by
  have rounded := scaledMinor_le_onGrid h maxSize
  unfold onGrid at rounded
  omega

theorem scaledMinor_self {side maxSize : Nat} (some : 0 < side) (grid : 8 ∣ maxSize) :
    scaledMinor side side maxSize = maxSize := by
  rw [scaledMinor, Nat.mul_div_cancel_left maxSize some, onGrid_add_four grid]

namespace Size

@[simp] theorem width_transpose (s : Size) : s.transpose.width = s.height := rfl

@[simp] theorem height_transpose (s : Size) : s.transpose.height = s.width := rfl

/-- Squares count as landscape either way, so there the scaled side has to come out as the
maximum itself. -/
theorem forVideo_transpose (s : Size) {maxSize : Nat} (grid : 8 ∣ maxSize) :
    s.transpose.forVideo maxSize = (s.forVideo maxSize).transpose := by
  unfold forVideo
  simp only [width_transpose, height_transpose]
  by_cases unlimited : maxSize = 0
  · simp only [unlimited, ↓reduceIte, transpose]
  rcases Nat.lt_trichotomy (onGrid s.width) (onGrid s.height) with portrait | square | landscape
  · have reversed : ¬ onGrid s.width > onGrid s.height := by omega
    simp only [unlimited, gt_iff_lt, portrait, reversed, ↓reduceIte]
    split <;> rfl
  · simp only [unlimited, square, gt_iff_lt, Nat.lt_irrefl, ↓reduceIte]
    split
    · have some : 0 < onGrid s.height := by omega
      rw [scaledMinor_self some grid, transpose]
    · rfl
  · have reversed : ¬ onGrid s.height > onGrid s.width := by omega
    simp only [unlimited, gt_iff_lt, landscape, reversed, ↓reduceIte]
    split <;> rfl

theorem larger_forVideo (s : Size) {maxSize : Nat} (grid : 8 ∣ maxSize) :
    (s.forVideo maxSize).larger =
      if maxSize = 0 then onGrid s.larger else min (onGrid s.larger) maxSize := by
  have sides : onGrid s.larger = max (onGrid s.width) (onGrid s.height) := onGrid_max _ _
  rw [sides]
  unfold forVideo
  by_cases unlimited : maxSize = 0
  · simp only [unlimited, ↓reduceIte, larger]
  simp only [unlimited, ↓reduceIte]
  split
  · rename_i portrait
    have fits := scaledMinor_le (Nat.le_of_lt portrait) grid
    split <;> simp only [larger] <;> omega
  · rename_i landscape
    have fits := scaledMinor_le (Nat.le_of_not_lt landscape) grid
    split <;> simp only [larger] <;> omega

/-- A maximum below the larger side is what the larger side becomes. -/
theorem larger_forVideo_of_lt {s : Size} {before maxSize : Nat} (gridBefore : 8 ∣ before)
    (grid : 8 ∣ maxSize) (some : 0 < maxSize) (smaller : maxSize < (s.forVideo before).larger) :
    (s.forVideo maxSize).larger = maxSize := by
  rw [larger_forVideo s gridBefore] at smaller
  rw [larger_forVideo s grid, if_neg (by omega)]
  split at smaller <;> omega

theorem larger_forVideo_le (s : Size) (maxSize : Nat) : (s.forVideo maxSize).larger ≤ s.larger := by
  have width := onGrid_le s.width
  have height := onGrid_le s.height
  unfold forVideo
  by_cases unlimited : maxSize = 0
  · simp only [unlimited, ↓reduceIte, larger]
    omega
  simp only [unlimited, ↓reduceIte]
  split
  · rename_i portrait
    have fits := @scaledMinor_le_major _ _ maxSize (Nat.le_of_lt portrait) (dvd_onGrid s.height)
    split <;> simp only [larger] <;> omega
  · rename_i landscape
    have fits := @scaledMinor_le_major _ _ maxSize (Nat.le_of_not_lt landscape) (dvd_onGrid s.width)
    split <;> simp only [larger] <;> omega

end Size

end Screencast
