import Screencast.Binary32.Basic
import Screencast.Text.Decimal

/-!
Decimal notation of single precision numbers: reading rounds to the nearest number, writing uses
the fewest digits that read back, and of those the nearest. Written numbers never have an exponent.
-/

namespace Screencast.Binary32

/-! ### Reading -/

def infinity (negative : Bool) : Binary32 := ofMagnitude negative infinityMagnitude

def notANumber (negative : Bool) : Binary32 := ofMagnitude negative 0x7fc00000

/-- Beyond 50 places on either side of the point nothing is left but zero and infinity. -/
def ofDecimal (negative : Bool) (d : Text.Decimal) : Binary32 :=
  if d.isZero || d.size < -60 then ofMagnitude negative 0
  else if d.size > 50 then infinity negative
  else nearest negative d.quotient.1 d.quotient.2

/-- A number without its sign; infinity and NaN have names, in any case. -/
def unsigned? (negative : Bool) (cs : List Char) : Option Binary32 :=
  match String.ofList (cs.map Char.toLower) with
  | "inf" | "infinity" => some (infinity negative)
  | "nan" => some (notANumber negative)
  | _ => (Text.Decimal.read? cs).map (ofDecimal negative)

def parse? (text : String) : Option Binary32 :=
  match text.toList with
  | '-' :: cs => unsigned? true cs
  | '+' :: cs => unsigned? false cs
  | cs => unsigned? false cs

/-! ### Writing -/

/-- The numbers that round to one magnitude lie between `low` and `high`, in units of
`2 ^ exponent`; the ends belong to them if `closed`. -/
structure Neighbourhood where
  low : Nat
  value : Nat
  high : Nat
  exponent : Int
  closed : Bool

/-- In quarters of the last binary place. Below a power of two the numbers lie twice as dense. -/
def neighbourhood (x : Binary32) : Neighbourhood where
  low := 4 * x.mantissa - (if x.fraction = 0 && x.biasedExponent > 1 then 1 else 2)
  value := 4 * x.mantissa
  high := 4 * x.mantissa + 2
  exponent := x.exponent - 2
  closed := x.mantissa % 2 == 0

/-- Both sides of a comparison of `n * 2 ^ exponent` with multiples of `10 ^ place`, as natural
numbers over one denominator: the factor of `n` and the factor of the multiple. -/
def gridFactors (exponent place : Int) : Nat × Nat :=
  let two (e : Int) : Nat := 1 <<< e.toNat
  let ten (e : Int) : Nat := Nat.pow 10 e.toNat
  (two exponent * ten (-place), ten place * two (-exponent))

/-- The multiple of `10 ^ place` nearest to the value among those that read back, if any. A tie
goes up. -/
def onGrid? (h : Neighbourhood) (place : Int) : Option Nat :=
  let (f, g) := gridFactors h.exponent place
  let value := h.value * f
  let below := value / g
  let inside (k : Nat) : Bool :=
    if h.closed then h.low * f ≤ k * g && k * g ≤ h.high * f
    else h.low * f < k * g && k * g < h.high * f
  match inside below, inside (below + 1) with
  | true, true => some (if value - below * g < (below + 1) * g - value then below else below + 1)
  | true, false => some below
  | false, true => some (below + 1)
  | false, false => none

/-- The decimal places tried, the coarsest first. Every finite number is below `10 ^ 39`, and nine
digits always suffice, so the finest place needed is `10 ^ -53`. -/
def places : List Int := (List.range 94).map fun n : Nat => (39 : Int) - n

/-- Digits and place of the shortest decimal that reads back. -/
def shortest (x : Binary32) : Nat × Int :=
  (places.findSome? fun p =>
    match onGrid? x.neighbourhood p with
    | some 0 | none => none
    | some k => some (k, p)).getD (0, 0)

/-- Positional notation of `digits * 10 ^ place`. -/
def positional (digits : Nat) (place : Int) : String :=
  let ds := Nat.toDigits 10 digits
  if place ≥ 0 then String.ofList (ds ++ List.replicate place.toNat '0')
  else
    let n := (-place).toNat
    let padded := List.replicate (n + 1 - ds.length) '0' ++ ds
    let whole := padded.length - n
    String.ofList (padded.take whole ++ '.' :: padded.drop whole)

def text (x : Binary32) : String :=
  let sign := if x.isNegative then "-" else ""
  if x.isNaN then "NaN"
  else if x.isInfinite then sign ++ "inf"
  else if x.magnitude = 0 then sign ++ "0"
  else
    let (digits, place) := x.shortest
    sign ++ positional digits place

end Screencast.Binary32
