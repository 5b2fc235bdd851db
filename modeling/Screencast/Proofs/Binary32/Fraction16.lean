import Mathlib.Tactic.Ring
import Screencast.Binary32.Fraction16

/-!
The sixteen bit fractions as single precision numbers: each of the 65536 codes stands for a number
that is written as the same code again.
-/

namespace Screencast.Binary32

theorem magnitude_ofMagnitude {m : Nat} (h : m < 2 ^ 31) :
    (ofMagnitude false m).magnitude = m := by
  simp only [magnitude, ofMagnitude, Bool.false_eq_true, ↓reduceIte, UInt32.toNat_ofNat']
  omega

theorem isNegative_ofMagnitude {m : Nat} (h : m < 2 ^ 31) :
    (ofMagnitude false m).isNegative = false := by
  simp only [isNegative, ofMagnitude, Bool.false_eq_true, ↓reduceIte, UInt32.toNat_ofNat']
  rw [Nat.mod_eq_of_lt (by omega)]
  exact Nat.testBit_lt_two_pow h

/-- Shifted up to the place of the highest bit, a code with `e` as its own is a mantissa. -/
theorem mantissa_bounds {n e : Nat} (low : 2 ^ e ≤ n) (high : n < 2 ^ (e + 1)) (he : e ≤ 15) :
    2 ^ 23 ≤ n * 2 ^ (23 - e) ∧ n * 2 ^ (23 - e) < 2 ^ 24 := by
  constructor
  · calc 2 ^ 23 = 2 ^ e * 2 ^ (23 - e) := by rw [← Nat.pow_add]; congr 1; omega
      _ ≤ n * 2 ^ (23 - e) := Nat.mul_le_mul_right _ low
  · calc n * 2 ^ (23 - e) < 2 ^ (e + 1) * 2 ^ (23 - e) :=
          Nat.mul_lt_mul_of_pos_right high (Nat.two_pow_pos _)
      _ = 2 ^ 24 := by rw [← Nat.pow_add]; congr 1; omega

/-- A code is a number already, so nothing is rounded. -/
theorem nearestMagnitude_fraction16 {n e : Nat} (low : 2 ^ e ≤ n) (high : n < 2 ^ (e + 1))
    (he : e ≤ 15) : nearestMagnitude n 65536 = (e + 110) * 2 ^ 23 + n * 2 ^ (23 - e) := by
  obtain ⟨hmin, hmax⟩ := mantissa_bounds low high he
  have hn : n ≠ 0 := by have := Nat.two_pow_pos e; omega
  have hlog : n.log2 = e := (Nat.log2_eq_iff hn).mpr ⟨low, high⟩
  have hden : (65536 : Nat).log2 = 16 := by decide
  have hscale : n <<< (39 - e) = n * 2 ^ (23 - e) * 65536 := by
    rw [Nat.shiftLeft_eq, show 39 - e = (23 - e) + 16 by omega, Nat.pow_add]
    ring
  have hfinite : (e + 110) * 2 ^ 23 + n * 2 ^ (23 - e) ≤ infinityMagnitude := by
    change _ ≤ 0x7f800000
    omega
  have hguess : ((e : Int) - (16 : Nat) - 23) = e - 39 := by omega
  have hneg : ¬ ((e : Int) - 39 ≥ 0) := by omega
  have hshift : (-((e : Int) - 39)).toNat = 39 - e := by omega
  have hbig : ¬ (n <<< (39 - e) < 65536 <<< 23) := by rw [hscale, Nat.shiftLeft_eq]; omega
  have hq : max ((e : Int) - 39) (-149) = e - 39 := by omega
  have hexp : ((e : Int) - 39 + 149).toNat = e + 110 := by omega
  have hdiv : divideEven (n <<< (39 - e)) 65536 = n * 2 ^ (23 - e) := by
    rw [hscale]
    simp [divideEven]
  simp only [nearestMagnitude, hn, ↓reduceIte, hlog, hden, hguess, hneg, hshift, hbig, hq, hexp,
    hdiv]
  rw [Nat.shiftLeft_eq, Nat.min_eq_left hfinite]

section

variable {e q : Nat} (he : e ≤ 15) (low : 2 ^ 23 ≤ q) (high : q < 2 ^ 24)

include he low high

theorem biasedExponent_normal :
    (ofMagnitude false ((e + 110) * 2 ^ 23 + q)).biasedExponent = e + 111 := by
  rw [biasedExponent, magnitude_ofMagnitude (by omega)]
  omega

theorem mantissa_normal : (ofMagnitude false ((e + 110) * 2 ^ 23 + q)).mantissa = q := by
  rw [mantissa, biasedExponent_normal he low high, if_neg (by omega), fraction,
    magnitude_ofMagnitude (by omega)]
  omega

/-- A number below one is written by its mantissa, without the bits behind the point. -/
theorem toFraction16_normal :
    (ofMagnitude false ((e + 110) * 2 ^ 23 + q)).toFraction16 =
      UInt16.ofNat (q / 2 ^ (23 - e)) := by
  have hmagnitude := magnitude_ofMagnitude (show (e + 110) * 2 ^ 23 + q < 2 ^ 31 by omega)
  have hpositive := isNegative_ofMagnitude (show (e + 110) * 2 ^ 23 + q < 2 ^ 31 by omega)
  have hmantissa := mantissa_normal he low high
  have hshift : (-(ofMagnitude false ((e + 110) * 2 ^ 23 + q)).exponent - 16).toNat = 23 - e := by
    rw [exponent, biasedExponent_normal he low high]
    omega
  have hnan : (ofMagnitude false ((e + 110) * 2 ^ 23 + q)).isNaN = false := by
    simp only [isNaN, hmagnitude, infinityMagnitude, decide_eq_false_iff_not]
    omega
  have hbelow : ¬ ((e + 110) * 2 ^ 23 + q ≥ one.magnitude) := by
    change ¬ (_ ≥ 0x3f800000)
    omega
  simp only [toFraction16, hnan, hpositive, hmagnitude, hbelow, hmantissa, hshift, Bool.or_self,
    Bool.false_eq_true, ↓reduceIte, Nat.shiftRight_eq_div_pow]

end

/-- Every code survives the way through single precision, the largest one too. -/
theorem toFraction16_ofFraction16 (code : UInt16) : (ofFraction16 code).toFraction16 = code := by
  have hcode : code.toNat < 2 ^ 16 := code.toNat_lt
  by_cases hone : code.toNat = 65535
  · have : code = 65535 := by rw [← UInt16.toNat_inj, hone]; rfl
    subst this
    decide
  by_cases hzero : code.toNat = 0
  · have : code = 0 := by rw [← UInt16.toNat_inj, hzero]; rfl
    subst this
    decide
  obtain ⟨e, low, high⟩ : ∃ e, 2 ^ e ≤ code.toNat ∧ code.toNat < 2 ^ (e + 1) :=
    ⟨code.toNat.log2, (Nat.log2_eq_iff hzero).mp rfl⟩
  have he : e ≤ 15 := by
    by_contra h
    have := Nat.pow_le_pow_right (show 0 < 2 by decide) (show 16 ≤ e by omega)
    omega
  obtain ⟨hmin, hmax⟩ := mantissa_bounds low high he
  have hnearest : ofFraction16 code =
      ofMagnitude false ((e + 110) * 2 ^ 23 + code.toNat * 2 ^ (23 - e)) := by
    simp only [ofFraction16, hone, ↓reduceIte, nearest, nearestMagnitude_fraction16 low high he]
  rw [hnearest, toFraction16_normal he hmin hmax, Nat.mul_div_cancel _ (Nat.two_pow_pos _),
    UInt16.ofNat_toNat]

end Screencast.Binary32
