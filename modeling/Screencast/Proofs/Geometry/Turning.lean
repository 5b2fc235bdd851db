import Screencast.Geometry.ScreenLayout
import Screencast.Proofs.Geometry.VideoSize

/-!
Turning a layout and computing it anew come to the same (`turnedTo_compute`): cropping, the grid and
the maximum treat both axes alike.
-/

namespace Screencast

namespace Rect

theorem isEmpty_transpose (r : Rect) : r.transpose.isEmpty = r.isEmpty := Bool.or_comm _ _

theorem size_transpose (r : Rect) : r.transpose.size = r.size.transpose := rfl

theorem intersect?_transpose (r s : Rect) :
    r.transpose.intersect? s.transpose = (r.intersect? s).map transpose := by
  let common : Rect :=
    ⟨max r.left s.left, max r.top s.top, min r.right s.right, min r.bottom s.bottom⟩
  change (if common.transpose.isEmpty then none else some common.transpose) =
    (if common.isEmpty then none else some common).map transpose
  rw [isEmpty_transpose]
  split <;> rfl

/-- A common part lies within the first of the two. -/
theorem intersect?_within {r s common : Rect} (h : r.intersect? s = some common) :
    r.left ≤ common.left ∧ r.top ≤ common.top ∧ common.right ≤ r.right ∧
      common.bottom ≤ r.bottom := by
  unfold intersect? at h
  dsimp only at h
  split at h <;> cases h
  exact ⟨Int.le_max_left .., Int.le_max_left .., Int.min_le_left .., Int.min_le_left ..⟩

theorem lt_of_not_isEmpty {r : Rect} (h : ¬ r.isEmpty = true) :
    r.left < r.right ∧ r.top < r.bottom := by
  rw [isEmpty, Bool.or_eq_true, decide_eq_true_eq, decide_eq_true_eq] at h
  unfold width height at h
  omega

theorem intersect?_nonempty {r s common : Rect} (h : r.intersect? s = some common) :
    common.left < common.right ∧ common.top < common.bottom := by
  unfold intersect? at h
  dsimp only at h
  split at h
  · cases h
  · rename_i some
    cases h
    exact lt_of_not_isEmpty some

end Rect

theorem signed32_lt (n : Int) : signed32 n < 2147483648 := Int.bmod_lt (by decide)

theorem Size.toRect_transpose (s : Size) : s.transpose.toRect = s.toRect.transpose := by
  simp only [toRect, Rect.transpose, width_transpose, height_transpose]

/-- A display that has this size at one rotation, seen at another one. -/
def Size.seenAt (s : Size) (turnedFrom turnedTo : Nat) : Size :=
  if turnedTo % 2 = turnedFrom % 2 then s else s.transpose

namespace ScreenLayout

theorem contentOf_congr {a b : Nat} (same : b % 2 = a % 2) (display : Size) (crop : Option Rect) :
    contentOf b display crop = contentOf a display crop := by
  simp only [contentOf, same]

theorem contentOf_transpose {a b : Nat} (other : b % 2 ≠ a % 2) (display : Size)
    (crop : Option Rect) :
    contentOf b display.transpose crop = (contentOf a display crop).transpose := by
  cases crop with
  | none => exact display.toRect_transpose
  | some crop =>
    -- one of the two rotations is even and leaves the crop alone, the other one turns it
    rcases Nat.mod_two_eq_zero_or_one a with even | odd
    · have odd : b % 2 ≠ 0 := by omega
      simp only [contentOf, even, odd, ↓reduceIte, Size.toRect_transpose,
        Rect.intersect?_transpose]
      cases display.toRect.intersect? crop <;> rfl
    · have even : b % 2 = 0 := by omega
      have back := Rect.intersect?_transpose display.toRect crop.transpose
      rw [Rect.transpose_transpose] at back
      simp only [contentOf, even, odd, Nat.one_ne_zero, ↓reduceIte, Size.toRect_transpose,
        back]
      cases display.toRect.intersect? crop.transpose <;> rfl

@[simp] theorem deviceRotation_turnedTo (s : ScreenLayout) (r : Nat) :
    (s.turnedTo r).deviceRotation = r % 4 := by
  simp only [turnedTo]
  split <;> rfl

/-- Edges are signed words, and a captured area does not begin before the screen. -/
theorem edges_contentOf (rotation : Nat) (display : Size) (crop : Option Rect) :
    0 ≤ (contentOf rotation display crop).left ∧ 0 ≤ (contentOf rotation display crop).top ∧
      (contentOf rotation display crop).right < 2147483648 ∧
      (contentOf rotation display crop).bottom < 2147483648 := by
  have right : display.toRect.right < 2147483648 := by simp only [Size.toRect, signed32_lt]
  have bottom : display.toRect.bottom < 2147483648 := by simp only [Size.toRect, signed32_lt]
  cases crop with
  | none => exact ⟨Int.le_refl _, Int.le_refl _, right, bottom⟩
  | some crop =>
    simp only [contentOf]
    cases common : display.toRect.intersect? _ with
    | none => decide
    | some content =>
      obtain ⟨left', top', right', bottom'⟩ := Rect.intersect?_within common
      exact ⟨left', top', Int.lt_of_le_of_lt right' right, Int.lt_of_le_of_lt bottom' bottom⟩

/-- No side of a captured area reaches 2^31. -/
theorem larger_contentOf_lt (rotation : Nat) (display : Size) (crop : Option Rect) :
    (contentOf rotation display crop).size.larger < 2147483648 := by
  have edges := edges_contentOf rotation display crop
  simp only [Size.larger, Rect.size, Rect.width, Rect.height]
  omega

theorem larger_videoSize (s : ScreenLayout) :
    s.videoSize.larger = s.unlockedVideoSize.larger := by
  unfold videoSize
  split
  · rfl
  · exact s.unlockedVideoSize.larger_transpose

@[simp] theorem larger_turnedTo (s : ScreenLayout) (r : Nat) :
    (s.turnedTo r).unlockedVideoSize.larger = s.unlockedVideoSize.larger := by
  simp only [turnedTo]
  split
  · rfl
  · exact s.unlockedVideoSize.larger_transpose

/-- Only the last of several turns counts. -/
@[simp] theorem turnedTo_turnedTo (s : ScreenLayout) (a b : Nat) :
    (s.turnedTo a).turnedTo b = s.turnedTo b := by
  simp only [turnedTo]
  by_cases first : (s.deviceRotation + a % 4) % 2 = 0
  · have parity : (a % 4 + b % 4) % 2 = (s.deviceRotation + b % 4) % 2 := by omega
    simp only [first, ↓reduceIte, parity]
  · simp only [first, ↓reduceIte, Rect.transpose_transpose, Size.transpose_transpose]
    by_cases second : (s.deviceRotation + b % 4) % 2 = 0
    · have parity : (a % 4 + b % 4) % 2 ≠ 0 := by omega
      rw [if_neg parity, if_pos second]
    · have parity : (a % 4 + b % 4) % 2 = 0 := by omega
      rw [if_pos parity, if_neg second]

@[simp] theorem turnedTo_mod (s : ScreenLayout) (r : Nat) : s.turnedTo (r % 4) = s.turnedTo r := by
  simp only [turnedTo, Nat.mod_mod]

/-- Seen from another rotation, a layout is the one computed there, unless the lock depends on the
rotation. -/
theorem turnedTo_compute {maxSize : Nat} {lock : OrientationLock} (grid : 8 ∣ maxSize)
    (resolved : lock ≠ .initial) (a b : Nat) (display : Size) (crop : Option Rect) :
    (compute a display crop maxSize lock).turnedTo b =
      compute b (display.seenAt a b) crop maxSize lock := by
  by_cases same : b % 2 = a % 2
  · have content := contentOf_congr (show b % 4 % 2 = a % 4 % 2 by omega) display crop
    have parity : (a % 4 + b % 4) % 2 = 0 := by omega
    simp only [turnedTo, compute, Size.seenAt, same, parity, ↓reduceIte, content]
    cases lock with
    | initial => exact absurd rfl resolved
    | unlocked | locked r => rfl
  · have content := contentOf_transpose (show b % 4 % 2 ≠ a % 4 % 2 by omega) display crop
    have parity : (a % 4 + b % 4) % 2 ≠ 0 := by omega
    simp only [turnedTo, compute, Size.seenAt, same, parity, ↓reduceIte, content,
      Rect.size_transpose, Size.forVideo_transpose _ grid]
    cases lock with
    | initial => exact absurd rfl resolved
    | unlocked | locked r => rfl

end ScreenLayout

end Screencast
