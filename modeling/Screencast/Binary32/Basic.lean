/-!
Single precision numbers as their 32 bits, and the rounding of a quotient of natural numbers to
the nearest of them. A finite number is `mantissa * 2 ^ exponent`, its sign apart.
-/

namespace Screencast

structure Binary32 where
  bits : UInt32
deriving DecidableEq, Repr, Inhabited

namespace Binary32

def isNegative (x : Binary32) : Bool := x.bits.toNat.testBit 31

/-- The bits without the sign. They order the numbers of one sign by size. -/
def magnitude (x : Binary32) : Nat := x.bits.toNat % 0x80000000

def infinityMagnitude : Nat := 0x7f800000

def isNaN (x : Binary32) : Bool := x.magnitude > infinityMagnitude

def isInfinite (x : Binary32) : Bool := x.magnitude == infinityMagnitude

def biasedExponent (x : Binary32) : Nat := x.magnitude / 0x800000

def fraction (x : Binary32) : Nat := x.magnitude % 0x800000

def mantissa (x : Binary32) : Nat :=
  if x.biasedExponent = 0 then x.fraction else 0x800000 + x.fraction

def exponent (x : Binary32) : Int := (max x.biasedExponent 1 : Nat) - 150

def ofMagnitude (negative : Bool) (magnitude : Nat) : Binary32 :=
  ⟨UInt32.ofNat (if negative then magnitude + 0x80000000 else magnitude)⟩

def zero : Binary32 := ⟨0⟩

def one : Binary32 := ⟨0x3f800000⟩

/-- The quotient rounded to an integer, a half going to the even neighbour. -/
def divideEven (num den : Nat) : Nat :=
  let q := num / den
  let twice := 2 * (num % den)
  if twice > den || (twice == den && q % 2 == 1) then q + 1 else q

/-- The magnitude nearest to `num / den`. The mantissa is rounded at the exponent that gives it
24 bits, or at the smallest exponent; a mantissa that rounds up to 25 bits carries into the
exponent by itself. -/
def nearestMagnitude (num den : Nat) : Nat :=
  if num = 0 then 0
  else
    let guess : Int := (num.log2 : Int) - den.log2 - 23
    let scaled (q : Int) : Nat × Nat :=
      if q ≥ 0 then (num, den <<< q.toNat) else (num <<< (-q).toNat, den)
    let (n, d) := scaled guess
    let q : Int := max (if n < d <<< 23 then guess - 1 else guess) (-149)
    let (n, d) := scaled q
    min ((q + 149).toNat <<< 23 + divideEven n d) infinityMagnitude

def nearest (negative : Bool) (num den : Nat) : Binary32 :=
  ofMagnitude negative (nearestMagnitude num den)

def ofNat (n : Nat) : Binary32 := nearest false n 1

/-- Brings a number into `0 ≤ x ≤ 1`; a NaN stays one. -/
def clampToUnit (x : Binary32) : Binary32 :=
  if x.isNaN then x
  else if x.isNegative && x.magnitude != 0 then zero
  else if !x.isNegative && x.magnitude > one.magnitude then one
  else x

end Binary32

end Screencast
