import Screencast.Text.Integer

/-!
Unsigned numbers in decimal notation, as far as they matter to rounding: digits on at least one side
of an optional point, then an optional exponent.
-/

namespace Screencast.Text

/-- The number `digits * 10 ^ scale`. No zero stands in front, so zero itself has no digits. -/
structure Decimal where
  digits : List Char
  scale : Int
deriving DecidableEq, Repr, Inhabited

namespace Decimal

/-- A number halfway between two floats of 64 bits or less has fewer digits than this. -/
def maxDigits : Nat := 800

/-- Leaves out zeros in front. One more digit stands for all that go beyond the maximum, a one if
any of them is not zero; so the number stays on its side of every number that is halfway between two
floats. -/
def ofDigits (digits : List Char) (scale : Int) : Decimal :=
  let digits := digits.dropWhile (· == '0')
  let rest := digits.drop maxDigits
  let last := if rest.isEmpty then [] else if rest.all (· == '0') then ['0'] else ['1']
  ⟨digits.take maxDigits ++ last, scale + rest.length - last.length⟩

/-- No format has numbers with exponents of this size. -/
def exponentBound : Nat := 0x10000

/-- One or more digits. An exponent that has reached the bound takes no further ones. -/
def exponent? (cs : List Char) : Option Nat :=
  if !cs.isEmpty && cs.all Char.isDigit then
    some (cs.foldl (fun e c => if e < exponentBound then 10 * e + digitValue c else e) 0)
  else none

/-- The part from the exponent mark on. -/
def exponentPart? : List Char → Option Int
  | [] => some 0
  | mark :: cs =>
    if mark == 'e' || mark == 'E' then
      match cs with
      | '-' :: ds => (exponent? ds).map fun n => -(n : Int)
      | '+' :: ds => (exponent? ds).map Int.ofNat
      | ds => (exponent? ds).map Int.ofNat
    else none

def read? (cs : List Char) : Option Decimal :=
  let (whole, rest) := cs.span Char.isDigit
  let (part, rest) := match rest with
    | '.' :: r => r.span Char.isDigit
    | r => ([], r)
  if whole.isEmpty && part.isEmpty then none
  else (exponentPart? rest).map fun e => ofDigits (whole ++ part) (e - part.length)

def isZero (d : Decimal) : Bool := d.digits.isEmpty

/-- The number is below `10 ^ size` but, unless it is zero, not below a tenth of that. -/
def size (d : Decimal) : Int := d.scale + d.digits.length

/-- The number as a quotient of two others. -/
def quotient (d : Decimal) : Nat × Nat :=
  let n := Text.ofDigits 10 (d.digits.map digitValue)
  if d.scale ≥ 0 then (n * Nat.pow 10 d.scale.toNat, 1) else (n, Nat.pow 10 (-d.scale).toNat)

end Decimal

end Screencast.Text
