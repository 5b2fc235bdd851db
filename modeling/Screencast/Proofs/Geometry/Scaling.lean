import Mathlib.Algebra.Order.Field.Rat
import Mathlib.Data.Nat.Cast.Order.Field
import Mathlib.Tactic.Linarith
import Screencast.Proofs.Geometry.VideoSize

/-!
How a picture is brought below a maximum, in numbers: its larger side is cut off there, and its
smaller side keeps the exact proportion up to half a step of the grid (`Size.Fitted`). The same
computation in words overflows nowhere (`Word.forVideo?_eq`). A picture and its transpose fare
alike, so that it is enough to look at upright ones (`Size.upright_or_turned`).
-/

namespace Screencast

theorem lt_onGrid_add (n : Nat) : n < onGrid n + 8 := by
  unfold onGrid
  omega

theorem onGrid_of_dvd {n : Nat} (h : 8 ∣ n) : onGrid n = n := Nat.div_mul_cancel h

theorem scaledMinor_mono (minor major : Nat) {a b : Nat} (h : a ≤ b) :
    scaledMinor minor major a ≤ scaledMinor minor major b := by
  have product : minor * a ≤ minor * b := Nat.mul_le_mul_left minor h
  exact onGrid_mono (Nat.add_le_add_right (Nat.div_le_div_right product) 4)

/-- A side on the grid does not grow when the picture is scaled down. -/
theorem scaledMinor_le_minor {minor major maxSize : Nat} (grid : 8 ∣ minor)
    (lower : maxSize ≤ major) : scaledMinor minor major maxSize ≤ minor := by
  have exact : minor * maxSize / major ≤ minor := by
    apply Nat.div_le_of_le_mul
    rw [Nat.mul_comm major]
    exact Nat.mul_le_mul_left minor lower
  calc scaledMinor minor major maxSize
      ≤ onGrid (minor + 4) := onGrid_mono (Nat.add_le_add_right exact 4)
    _ = minor := onGrid_add_four grid

/-- Rounding down to a whole number and then to the nearest point of the grid is at most half a
step off, since a fraction is lost only below the middle. -/
theorem abs_scaledMinor_sub_le (minor maxSize : Nat) {major : Nat} (some : 0 < major) :
    |(scaledMinor minor major maxSize : ℚ) - minor * maxSize / major| ≤ 4 := by
  have whole : (minor * maxSize / major : ℕ) ≤ (minor * maxSize / major : ℚ) := by
    exact_mod_cast Nat.cast_div_le (α := ℚ) (m := minor * maxSize) (n := major)
  have fraction : (minor * maxSize / major : ℚ) < (minor * maxSize / major : ℕ) + 1 := by
    have positive : (0 : ℚ) < major := by exact_mod_cast some
    rw [div_lt_iff₀ positive]
    exact_mod_cast Nat.lt_mul_of_div_lt (Nat.lt_succ_self _) some
  have rounded := onGrid_le (minor * maxSize / major + 4)
  have next := lt_onGrid_add (minor * maxSize / major + 4)
  have low : (scaledMinor minor major maxSize : ℚ) ≤ (minor * maxSize / major : ℕ) + 4 := by
    exact_mod_cast rounded
  have high : (minor * maxSize / major : ℕ) + 1 ≤ (scaledMinor minor major maxSize : ℚ) + 4 := by
    exact_mod_cast Nat.lt_of_add_lt_add_right next
  rw [abs_le]
  constructor
  · linarith
  · linarith

namespace Size

/-- What is shown of upright pictures, and of the transpose of every picture it is shown of, holds
of all pictures. -/
theorem upright_or_turned {P : Size → Prop} (upright : ∀ s : Size, s.width ≤ s.height → P s)
    (turned : ∀ s : Size, P s → P s.transpose) (s : Size) : P s := by
  rcases Nat.le_total s.width s.height with h | h
  · exact upright s h
  · exact turned s.transpose (upright s.transpose h)

/-- Both sides brought to the grid. -/
def gridded (s : Size) : Size := ⟨onGrid s.width, onGrid s.height⟩

/-- An upright picture is scaled by its height, also when its sides are as long as each other on
the grid. -/
theorem forVideo_upright {s : Size} (upright : s.width ≤ s.height) {maxSize : Nat}
    (grid : 8 ∣ maxSize) :
    s.forVideo maxSize =
      if maxSize = 0 ∨ onGrid s.height ≤ maxSize then s.gridded
      else ⟨scaledMinor (onGrid s.width) (onGrid s.height) maxSize, maxSize⟩ := by
  have sides := onGrid_mono upright
  unfold forVideo gridded
  by_cases unlimited : maxSize = 0
  · simp only [unlimited, true_or, ↓reduceIte]
  by_cases fits : onGrid s.height ≤ maxSize
  · have tall : ¬ onGrid s.height > maxSize := Nat.not_lt.mpr fits
    have wide : ¬ onGrid s.width > maxSize := Nat.not_lt.mpr (Nat.le_trans sides fits)
    simp only [unlimited, fits, tall, wide, or_true, ↓reduceIte, ite_self]
  · have tall : onGrid s.height > maxSize := Nat.not_le.mp fits
    simp only [unlimited, fits, tall, or_self, ↓reduceIte]
    by_cases portrait : onGrid s.height > onGrid s.width
    · rw [if_pos portrait]
    · -- a square on the grid, whose sides both become the maximum
      have same : onGrid s.width = onGrid s.height := Nat.le_antisymm sides (Nat.not_lt.mp portrait)
      have some : 0 < onGrid s.height := Nat.lt_of_le_of_lt (Nat.zero_le _) tall
      rw [if_neg portrait, same, if_pos tall, scaledMinor_self some grid]

/-- What becomes of a picture of this size below a maximum on the grid. -/
structure Fitted (s : Size) (maxSize : Nat) (r : Size) : Prop where
  grid : 8 ∣ r.width ∧ 8 ∣ r.height
  within : r.width ≤ s.width ∧ r.height ≤ s.height
  kept : maxSize = 0 ∨ onGrid s.larger ≤ maxSize → r = s.gridded
  larger : 0 < maxSize → maxSize < onGrid s.larger → r.larger = maxSize
  /-- The side that is the larger one stays so, and the other one keeps the proportion. -/
  upright : 0 < maxSize → maxSize < onGrid s.larger → s.width ≤ s.height →
    r.height = maxSize ∧ |(r.width : ℚ) - onGrid s.width * maxSize / onGrid s.height| ≤ 4
  wide : 0 < maxSize → maxSize < onGrid s.larger → s.height ≤ s.width →
    r.width = maxSize ∧ |(r.height : ℚ) - onGrid s.height * maxSize / onGrid s.width| ≤ 4

theorem Fitted.transpose {s r : Size} {maxSize : Nat} (h : s.Fitted maxSize r) :
    s.transpose.Fitted maxSize r.transpose where
  grid := h.grid.symm
  within := h.within.symm
  kept := by
    rw [larger_transpose]
    exact fun small => congrArg Size.transpose (h.kept small)
  larger := by
    rw [larger_transpose, larger_transpose]
    exact h.larger
  upright := by
    rw [larger_transpose]
    exact h.wide
  wide := by
    rw [larger_transpose]
    exact h.upright

variable {s : Size} {maxSize : Nat}

theorem larger_of_upright (upright : s.width ≤ s.height) : s.larger = s.height :=
  Nat.max_eq_right upright

theorem fitted_gridded (s : Size) (kept : maxSize = 0 ∨ onGrid s.larger ≤ maxSize) :
    s.Fitted maxSize s.gridded := by
  have contrary (some : 0 < maxSize) (large : maxSize < onGrid s.larger) : False := by omega
  constructor
  case grid => exact ⟨dvd_onGrid _, dvd_onGrid _⟩
  case within => exact ⟨onGrid_le _, onGrid_le _⟩
  case kept => exact fun _ => rfl
  case larger | upright | wide =>
    intro some large
    exact (contrary some large).elim

theorem fitted_upright (upright : s.width ≤ s.height) (grid : 8 ∣ maxSize)
    (scaled : ¬ (maxSize = 0 ∨ onGrid s.height ≤ maxSize)) :
    s.Fitted maxSize ⟨scaledMinor (onGrid s.width) (onGrid s.height) maxSize, maxSize⟩ := by
  have sides : onGrid s.width ≤ onGrid s.height := onGrid_mono upright
  have lower : maxSize < onGrid s.height := by omega
  have width : scaledMinor (onGrid s.width) (onGrid s.height) maxSize ≤ onGrid s.width :=
    scaledMinor_le_minor (dvd_onGrid s.width) (Nat.le_of_lt lower)
  have near := abs_scaledMinor_sub_le (onGrid s.width) maxSize (Nat.zero_lt_of_lt lower)
  constructor
  case grid => exact ⟨dvd_onGrid _, grid⟩
  case within =>
    exact ⟨Nat.le_trans width (onGrid_le _), Nat.le_trans (Nat.le_of_lt lower) (onGrid_le _)⟩
  case kept =>
    rw [larger_of_upright upright]
    intro kept
    exact absurd kept scaled
  case larger =>
    intro _ _
    exact Nat.max_eq_right (scaledMinor_le sides grid)
  case upright =>
    intro _ _ _
    exact ⟨rfl, near⟩
  case wide =>
    -- a picture that is upright and wide is a square, and stays one
    intro _ _ wide
    have square : s.width = s.height := Nat.le_antisymm upright wide
    rw [square] at near ⊢
    have same := scaledMinor_self (Nat.zero_lt_of_lt lower) grid
    rw [same] at near ⊢
    exact ⟨rfl, near⟩

theorem fitted_forVideo (s : Size) (grid : 8 ∣ maxSize) :
    s.Fitted maxSize (s.forVideo maxSize) := by
  induction s using upright_or_turned with
  | upright s upright =>
    rw [forVideo_upright upright grid]
    split
    · rename_i kept
      apply fitted_gridded
      rwa [larger_of_upright upright]
    · rename_i scaled
      exact fitted_upright upright grid scaled
  | turned s fitted =>
    rw [forVideo_transpose s grid]
    exact fitted.transpose

/-- A picture on the grid that is small enough stays as it is. -/
theorem forVideo_of_fits {r : Size} (grid : 8 ∣ r.width ∧ 8 ∣ r.height)
    (maxGrid : 8 ∣ maxSize) (fits : maxSize = 0 ∨ r.larger ≤ maxSize) :
    r.forVideo maxSize = r := by
  have kept : maxSize = 0 ∨ onGrid r.larger ≤ maxSize :=
    fits.imp_right fun small => Nat.le_trans (onGrid_le _) small
  rw [(fitted_forVideo r maxGrid).kept kept, gridded, onGrid_of_dvd grid.1, onGrid_of_dvd grid.2]

theorem forVideo_forVideo (s : Size) (grid : 8 ∣ maxSize) :
    (s.forVideo maxSize).forVideo maxSize = s.forVideo maxSize := by
  apply forVideo_of_fits (fitted_forVideo s grid).grid grid
  by_cases unlimited : maxSize = 0
  · exact .inl unlimited
  · right
    rw [larger_forVideo s grid, if_neg unlimited]
    exact Nat.min_le_right _ _

/-- A larger maximum leaves no side smaller. -/
theorem forVideo_mono (s : Size) {a b : Nat} (some : 0 < a) (le : a ≤ b) (gridA : 8 ∣ a)
    (gridB : 8 ∣ b) :
    (s.forVideo a).width ≤ (s.forVideo b).width ∧
      (s.forVideo a).height ≤ (s.forVideo b).height := by
  induction s using upright_or_turned with
  | upright s upright =>
    rw [forVideo_upright upright gridA, forVideo_upright upright gridB]
    by_cases keptA : a = 0 ∨ onGrid s.height ≤ a
    · have keptB : b = 0 ∨ onGrid s.height ≤ b := by omega
      rw [if_pos keptA, if_pos keptB]
      exact ⟨Nat.le_refl _, Nat.le_refl _⟩
    rw [if_neg keptA]
    have lower : a ≤ onGrid s.height := by omega
    by_cases keptB : b = 0 ∨ onGrid s.height ≤ b
    · rw [if_pos keptB]
      exact ⟨scaledMinor_le_minor (dvd_onGrid s.width) lower, lower⟩
    · rw [if_neg keptB]
      exact ⟨scaledMinor_mono _ _ le, le⟩
  | turned s mono =>
    rw [forVideo_transpose s gridA, forVideo_transpose s gridB]
    exact mono.symm

end Size

/-! ### In words

What is computed with words of 32 bits, and 64 for products; each result only if it fits. -/

namespace Word

def mul? (a b : UInt32) : Option UInt64 :=
  if a.toNat * b.toNat < 2 ^ 64 then some (a.toUInt64 * b.toUInt64) else none

def div? (a : UInt64) (b : UInt32) : Option UInt64 :=
  if b = 0 then none else some (a / b.toUInt64)

def narrow? (a : UInt64) : Option UInt32 := if a.toNat < 2 ^ 32 then some a.toUInt32 else none

def add? (a b : UInt32) : Option UInt32 := if a.toNat + b.toNat < 2 ^ 32 then some (a + b) else none

variable {a b : UInt32} {c : UInt64}

theorem mul?_eq (a b : UInt32) : ∃ c, mul? a b = some c ∧ c.toNat = a.toNat * b.toNat := by
  have fits : a.toNat * b.toNat < 2 ^ 64 :=
    calc a.toNat * b.toNat
        < 2 ^ 32 * 2 ^ 32 := Nat.mul_lt_mul'' a.toNat_lt b.toNat_lt
      _ = 2 ^ 64 := by decide
  refine ⟨_, if_pos fits, ?_⟩
  rw [UInt64.toNat_mul, UInt32.toNat_toUInt64, UInt32.toNat_toUInt64, Nat.mod_eq_of_lt fits]

theorem div?_eq (some : 0 < b.toNat) :
    ∃ q, div? c b = Option.some q ∧ q.toNat = c.toNat / b.toNat := by
  have nonzero : b ≠ 0 := by
    rintro rfl
    exact absurd some (by decide)
  refine ⟨_, if_neg nonzero, ?_⟩
  rw [UInt64.toNat_div, UInt32.toNat_toUInt64]

theorem narrow?_eq (fits : c.toNat < 2 ^ 32) :
    ∃ a, narrow? c = some a ∧ a.toNat = c.toNat := by
  refine ⟨_, if_pos fits, ?_⟩
  rw [UInt64.toNat_toUInt32, Nat.mod_eq_of_lt fits]

theorem add?_eq (fits : a.toNat + b.toNat < 2 ^ 32) :
    ∃ d, add? a b = some d ∧ d.toNat = a.toNat + b.toNat := by
  refine ⟨_, if_pos fits, ?_⟩
  rw [UInt32.toNat_add, Nat.mod_eq_of_lt fits]

/-- The largest multiple of 8 that is not larger: the three low bits are cleared. -/
def onGrid (n : UInt32) : UInt32 := n &&& ~~~7

theorem toNat_onGrid (n : UInt32) : (onGrid n).toNat = Screencast.onGrid n.toNat := by
  have mask : (~~~7 : UInt32).toNat = (2 ^ 29 - 1) <<< 3 := rfl
  have shifted : Screencast.onGrid n.toNat = n.toNat >>> 3 <<< 3 := by
    rw [Nat.shiftLeft_eq, Nat.shiftRight_eq_div_pow, Screencast.onGrid]
  rw [onGrid, UInt32.toNat_and, mask, shifted]
  apply Nat.eq_of_testBit_eq
  intro i
  rw [Nat.testBit_and, Nat.testBit_shiftLeft, Nat.testBit_shiftLeft, Nat.testBit_two_pow_sub_one,
    Nat.testBit_shiftRight]
  by_cases low : i < 3
  · simp [Nat.not_le.mpr low]
  have same : 3 + (i - 3) = i := by omega
  by_cases high : i < 32
  · have inside : i - 3 < 29 := by omega
    simp [Nat.not_lt.mp low, inside, same]
  · have none : n.toNat.testBit i = false := by
      apply Nat.testBit_lt_two_pow
      exact Nat.lt_of_lt_of_le n.toNat_lt (Nat.pow_le_pow_right (by decide) (Nat.not_lt.mp high))
    simp [none, same]

/-- `Screencast.scaledMinor`, with the product in 64 bits and everything else in 32. -/
def scaledMinor? (minor major maxSize : UInt32) : Option UInt32 := do
  let product ← mul? minor maxSize
  let quotient ← div? product major
  let exact ← narrow? quotient
  let raised ← add? exact 4
  return onGrid raised

/-- `Size.forVideo` for the two sides of a picture. -/
def forVideo? (width height maxSize : UInt32) : Option (UInt32 × UInt32) :=
  let w := onGrid width
  let h := onGrid height
  if maxSize = 0 then some (w, h)
  else if h > w then
    if h > maxSize then (scaledMinor? w h maxSize).map fun minor => (minor, maxSize)
    else some (w, h)
  else
    if w > maxSize then (scaledMinor? h w maxSize).map fun minor => (maxSize, minor)
    else some (w, h)

/-- The quotient is at most the maximum, and a side on the grid leaves room for what is added. -/
theorem scaledMinor?_eq {minor major maxSize : UInt32} (h : minor ≤ major)
    (grid : 8 ∣ major.toNat) (lower : maxSize < major) :
    ∃ side, scaledMinor? minor major maxSize = some side ∧
      side.toNat = scaledMinor minor.toNat major.toNat maxSize.toNat := by
  have ordered : minor.toNat ≤ major.toNat := UInt32.le_iff_toNat_le.mp h
  have below : maxSize.toNat < major.toNat := UInt32.lt_iff_toNat_lt.mp lower
  have room := major.toNat_lt
  have exact : minor.toNat * maxSize.toNat / major.toNat ≤ maxSize.toNat := by
    apply Nat.div_le_of_le_mul
    exact Nat.mul_le_mul_right maxSize.toNat ordered
  obtain ⟨product, multiplied, product_eq⟩ := mul?_eq minor maxSize
  obtain ⟨quotient, divided, quotient_eq⟩ := div?_eq (c := product) (b := major) (by omega)
  rw [product_eq] at quotient_eq
  obtain ⟨word, narrowed, word_eq⟩ := narrow?_eq (c := quotient) (by omega)
  have four : (4 : UInt32).toNat = 4 := rfl
  obtain ⟨raised, added, raised_eq⟩ := add?_eq (a := word) (b := 4) (by omega)
  refine ⟨onGrid raised, by simp [scaledMinor?, multiplied, divided, narrowed, added], ?_⟩
  rw [toNat_onGrid, raised_eq, word_eq, quotient_eq, four, scaledMinor]

/-- Nothing overflows, whatever the sides and the maximum are. -/
theorem forVideo?_eq (width height maxSize : UInt32) :
    ∃ w h, forVideo? width height maxSize = some (w, h) ∧
      Size.forVideo ⟨width.toNat, height.toNat⟩ maxSize.toNat = ⟨w.toNat, h.toNat⟩ := by
  have w_eq := toNat_onGrid width
  have h_eq := toNat_onGrid height
  have zero : maxSize = 0 ↔ maxSize.toNat = 0 := by
    rw [← UInt32.toNat_inj]
    rfl
  unfold forVideo? Size.forVideo
  simp only [gt_iff_lt, UInt32.lt_iff_toNat_lt, zero, w_eq, h_eq]
  split
  · exact ⟨_, _, rfl, by rw [w_eq, h_eq]⟩
  split
  · rename_i portrait
    split
    · rename_i tall
      obtain ⟨side, scaled, side_eq⟩ := @scaledMinor?_eq (onGrid width) (onGrid height) maxSize
        (UInt32.le_iff_toNat_le.mpr (by omega)) (h_eq ▸ dvd_onGrid _)
        (UInt32.lt_iff_toNat_lt.mpr (by omega))
      refine ⟨side, maxSize, by rw [scaled]; rfl, ?_⟩
      rw [side_eq, w_eq, h_eq]
    · exact ⟨_, _, rfl, by rw [w_eq, h_eq]⟩
  · rename_i landscape
    split
    · rename_i wide
      obtain ⟨side, scaled, side_eq⟩ := @scaledMinor?_eq (onGrid height) (onGrid width) maxSize
        (UInt32.le_iff_toNat_le.mpr (by omega)) (w_eq ▸ dvd_onGrid _)
        (UInt32.lt_iff_toNat_lt.mpr (by omega))
      refine ⟨maxSize, side, by rw [scaled]; rfl, ?_⟩
      rw [side_eq, w_eq, h_eq]
    · exact ⟨_, _, rfl, by rw [w_eq, h_eq]⟩

end Word

namespace Size

/-- The size of a video, for every size of the picture and every maximum on the grid: nothing
overflows on the way to it, it is what `Fitted` says, it turns with the picture, it stays as it is
below the same maximum, and no side of it shrinks under a larger one. -/
theorem fitted_of_words (width height maxSize : UInt32) (grid : 8 ∣ maxSize.toNat) :
    let s : Size := ⟨width.toNat, height.toNat⟩
    let r := s.forVideo maxSize.toNat
    (∃ w h, Word.forVideo? width height maxSize = some (w, h) ∧ r = ⟨w.toNat, h.toNat⟩) ∧
      s.Fitted maxSize.toNat r ∧
      s.transpose.forVideo maxSize.toNat = r.transpose ∧
      r.forVideo maxSize.toNat = r ∧
      ∀ larger : UInt32, 8 ∣ larger.toNat → 0 < maxSize → maxSize ≤ larger →
        r.width ≤ (s.forVideo larger.toNat).width ∧
          r.height ≤ (s.forVideo larger.toNat).height := by
  intro s r
  refine ⟨Word.forVideo?_eq width height maxSize, fitted_forVideo s grid,
    forVideo_transpose s grid, forVideo_forVideo s grid, ?_⟩
  intro larger gridLarger some le
  exact forVideo_mono s (UInt32.lt_iff_toNat_lt.mp some) (UInt32.le_iff_toNat_le.mp le) grid
    gridLarger

/-- The smaller side of a phone's screen lies between two points of the grid, and goes to the
upper one. -/
theorem fitted_of_words_phone :
    8 ∣ (1024 : UInt32).toNat ∧ Word.forVideo? 1080 2400 1024 = some (464, 1024) ∧
      (⟨1080, 2400⟩ : Size).Fitted 1024 ⟨464, 1024⟩ ∧
      ∀ larger : UInt32, 8 ∣ larger.toNat → 1024 ≤ larger →
        464 ≤ ((⟨1080, 2400⟩ : Size).forVideo larger.toNat).width := by
  have grid : 8 ∣ (1024 : UInt32).toNat := by decide
  obtain ⟨-, fitted, -, -, mono⟩ := fitted_of_words 1080 2400 1024 grid
  exact ⟨grid, by decide, fitted, fun larger gridLarger le =>
    (mono larger gridLarger (by decide) le).1⟩

end Size

end Screencast
