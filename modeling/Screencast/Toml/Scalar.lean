import Screencast.Record.Value
import Screencast.Text.Decimal
import Screencast.Text.Fields

/-!
Values without quotes: booleans, integers, floats and dates. Digits may be grouped by underscores,
which stand between two digits. Integers and floats have 64 bits; floats and dates are kept as
written.
-/

namespace Screencast.Toml

/-- The digits without the underscores between them. -/
def ungroup? (isDigit : Char → Bool) (cs : List Char) : Option (List Char) :=
  let groups := Text.fields '_' cs
  if groups.all fun g => !g.isEmpty && g.all isDigit then some groups.flatten else none

/-- A decimal number has no zeros in front. -/
def wholeDigits? (cs : List Char) : Option (List Char) :=
  (ungroup? Char.isDigit cs).filter fun ds => ds.length = 1 || ds.head? != some '0'

def splitSign : List Char → Bool × List Char
  | '-' :: cs => (true, cs)
  | '+' :: cs => (false, cs)
  | cs => (false, cs)

def isHexDigit (c : Char) : Bool :=
  c.isDigit || ('a' ≤ c && c ≤ 'f') || ('A' ≤ c && c ≤ 'F')

def digitOf (c : Char) : Nat :=
  if c.isDigit then c.toNat - '0'.toNat else c.toLower.toNat - 'a'.toNat + 10

def inBase? (base high : Nat) (digits : List Char) : Option Int :=
  (Text.ofDigits? base high (digits.map digitOf)).map Int.ofNat

def maxInteger : Nat := 0x7fffffffffffffff

def integer? (token : List Char) : Option Int :=
  match token with
  | '0' :: 'x' :: cs => (ungroup? isHexDigit cs).bind (inBase? 16 maxInteger)
  | '0' :: 'o' :: cs =>
    (ungroup? (fun c => '0' ≤ c && c ≤ '7') cs).bind (inBase? 8 maxInteger)
  | '0' :: 'b' :: cs =>
    (ungroup? (fun c => c == '0' || c == '1') cs).bind (inBase? 2 maxInteger)
  | _ => match splitSign token with
    | (true, cs) => ((wholeDigits? cs).bind (inBase? 10 (maxInteger + 1))).map fun n => -n
    | (false, cs) => (wholeDigits? cs).bind (inBase? 10 maxInteger)

/-- An exponent after its mark. -/
def isExponent (cs : List Char) : Bool := (ungroup? Char.isDigit (splitSign cs).2).isSome

/-- A fraction or an exponent has to be there, or else it is no float. -/
def isFloatNotation (cs : List Char) : Bool :=
  let (mantissa, mark) := cs.span fun c => c != 'e' && c != 'E'
  let (whole, point) := mantissa.span (· != '.')
  let fraction := point.isEmpty || (ungroup? Char.isDigit (point.drop 1)).isSome
  let exponent := mark.isEmpty || isExponent (mark.drop 1)
  (wholeDigits? whole).isSome && fraction && exponent && !(point.isEmpty && mark.isEmpty)

/-- The greatest float is `2 ^ 1024 - 2 ^ 971`. Half a place above it rounding leads to infinity. -/
def exceedsFloats (d : Text.Decimal) : Bool :=
  !d.isZero && (d.size > 309 ||
    d.size == 309 && d.quotient.2 * (Nat.pow 2 1024 - Nat.pow 2 970) ≤ d.quotient.1)

/-- Infinity has a name, and no number may round to it; but one below zero may. -/
def isFloat (token : List Char) : Bool :=
  let (negative, cs) := splitSign token
  cs == ['i', 'n', 'f'] || cs == ['n', 'a', 'n'] ||
    (isFloatNotation cs && (negative ||
      (Text.Decimal.read? (cs.filter (· != '_'))).any fun d => !exceedsFloats d))

/-! ### Dates and times -/

/-- A number of exactly this many digits. -/
def fixed? (width : Nat) (cs : List Char) : Option Nat :=
  if cs.length = width && cs.all Char.isDigit then some (Text.ofDigits 10 (cs.map digitOf))
  else none

def daysIn (year month : Nat) : Nat :=
  match month with
  | 2 => if year % 4 = 0 && (year % 100 != 0 || year % 400 = 0) then 29 else 28
  | 4 | 6 | 9 | 11 => 30
  | _ => 31

def isDate (cs : List Char) : Bool :=
  match Text.fields '-' cs with
  | [y, m, d] =>
    match fixed? 4 y, fixed? 2 m, fixed? 2 d with
    | some y, some m, some d => 1 ≤ m && m ≤ 12 && 1 ≤ d && d ≤ daysIn y m
    | _, _, _ => false
  | _ => false

/-- The sixtieth second is a leap second. -/
def isTime (cs : List Char) : Bool :=
  let (clock, fraction) := cs.span (· != '.')
  let inRange (most : Nat) (field : List Char) : Bool := (fixed? 2 field).any (· ≤ most)
  match Text.fields ':' clock with
  | [h, m, s] =>
    inRange 23 h && inRange 59 m && inRange 60 s &&
      (fraction.isEmpty || (fraction.length > 1 && (fraction.drop 1).all Char.isDigit))
  | _ => false

def isOffset (cs : List Char) : Bool :=
  match cs with
  | ['Z'] | ['z'] => true
  | sign :: clock =>
    (sign == '+' || sign == '-') && match Text.fields ':' clock with
      | [h, m] => (fixed? 2 h).any (· ≤ 23) && (fixed? 2 m).any (· ≤ 59)
      | _ => false
  | [] => false

/-- A time with or without an offset. -/
def isOffsetTime (cs : List Char) : Bool :=
  let (time, offset) := cs.span fun c => c.isDigit || c == ':' || c == '.'
  isTime time && (offset.isEmpty || isOffset offset)

/-- A date, a time, or both with a `T` between them. -/
def isMoment (token : List Char) : Bool :=
  isTime token || isDate (token.take 10) && match token.drop 10 with
    | [] => true
    | c :: time => (c == 'T' || c == 't') && isOffsetTime time

/-- The characters that values without quotes are made of. -/
def isTokenChar (c : Char) : Bool :=
  c.isDigit || ('a' ≤ c && c ≤ 'z') || ('A' ≤ c && c ≤ 'Z') ||
    c == '+' || c == '-' || c == '_' || c == '.' || c == ':'

def classify? (token : List Char) : Option Value :=
  match String.ofList token with
  | "true" => some (.bool true)
  | "false" => some (.bool false)
  | written =>
    match integer? token with
    | some n => some (.int n)
    | none =>
      if isFloat token then some (.other written)
      else if isMoment token then some (.moment written)
      else none

end Screencast.Toml
