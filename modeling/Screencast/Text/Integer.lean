/-!
Decimal integers: an optional sign and one or more ASCII digits, nothing else, within a range.
-/

namespace Screencast.Text

def digitValue (c : Char) : Nat := c.toNat - '0'.toNat

/-- The number with these digits, the highest first. -/
def ofDigits (base : Nat) (digits : List Nat) : Nat := digits.foldl (fun n d => base * n + d) 0

/-- The number with these digits if it is at most `high`. Numbers only grow by further digits, so
the first one that leads above it settles that. -/
def ofDigits? (base high : Nat) (digits : List Nat) : Option Nat :=
  digits.foldlM (fun n d => if base * n + d ≤ high then some (base * n + d) else none) 0

theorem le_foldl_digits {base : Nat} (h : 0 < base) (digits : List Nat) (n : Nat) :
    n ≤ digits.foldl (fun n d => base * n + d) n := by
  induction digits generalizing n with
  | nil => exact Nat.le_refl n
  | cons d ds ih =>
    have step : n ≤ base * n := Nat.le_mul_of_pos_left n h
    exact Nat.le_trans (Nat.le_add_right_of_le step) (ih (base * n + d))

theorem foldlM_digits {base : Nat} (h : 0 < base) (high : Nat) (digits : List Nat) (n : Nat)
    (fits : n ≤ high) :
    digits.foldlM (fun n d => if base * n + d ≤ high then some (base * n + d) else none) n =
      if digits.foldl (fun n d => base * n + d) n ≤ high then
        some (digits.foldl (fun n d => base * n + d) n) else none := by
  induction digits generalizing n with
  | nil => simp [fits]
  | cons d ds ih =>
    by_cases next : base * n + d ≤ high
    · rw [List.foldlM_cons, if_pos next]
      exact ih (base * n + d) next
    · have := le_foldl_digits h ds (base * n + d)
      rw [List.foldlM_cons, if_neg next, List.foldl_cons, if_neg (by omega)]
      rfl

theorem ofDigits?_eq {base : Nat} (h : 0 < base) (high : Nat) (digits : List Nat) :
    ofDigits? base high digits =
      if ofDigits base digits ≤ high then some (ofDigits base digits) else none :=
  foldlM_digits h high digits 0 (Nat.zero_le high)

/-- One or more ASCII digits, for a number up to `high`. -/
def digits? (high : Nat) (cs : List Char) : Option Nat :=
  if !cs.isEmpty && cs.all Char.isDigit then ofDigits? 10 high (cs.map digitValue) else none

/-- An integer of a signed type, from `-low` to `high`: either sign may stand in front. -/
def integer? (low high : Nat) (text : String) : Option Int :=
  match text.toList with
  | '-' :: cs => (digits? low cs).map fun n => -(n : Int)
  | '+' :: cs => (digits? high cs).map Int.ofNat
  | cs => (digits? high cs).map Int.ofNat

/-- An integer of an unsigned type: only a plus sign may stand in front. -/
def natural? (high : Nat) (text : String) : Option Nat :=
  match text.toList with
  | '+' :: cs => digits? high cs
  | cs => digits? high cs

def int32? : String → Option Int := integer? 2147483648 2147483647

def int64? : String → Option Int := integer? 9223372036854775808 9223372036854775807

end Screencast.Text
