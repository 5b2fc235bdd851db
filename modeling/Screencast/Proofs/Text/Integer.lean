import Screencast.Proofs.Text.Blank
import Screencast.Text.Integer

/-!
Integers in decimal notation: each one that fits is read back from its own text (`integer?_repr`),
and whatever is read fits (`integer?_fits`).
-/

namespace Screencast.Text

variable {low high n : Nat} {cs : List Char} {text : String} {z : Int}

theorem ofDigits_digitValue (cs : List Char) :
    ofDigits 10 (cs.map digitValue) = Nat.ofDigitChars 10 cs 0 := by
  rw [ofDigits, List.foldl_map, Nat.ofDigitChars_eq_foldl]
  rfl

theorem digits?_eq_some_iff :
    digits? high cs = some n ↔
      cs ≠ [] ∧ (∀ c ∈ cs, c.isDigit = true) ∧ Nat.ofDigitChars 10 cs 0 = n ∧ n ≤ high := by
  unfold digits?
  rw [ofDigits?_eq (by decide), ofDigits_digitValue]
  constructor
  · intro read
    split at read
    · rename_i written
      simp only [Bool.and_eq_true, Bool.not_eq_true', List.isEmpty_eq_false_iff,
        List.all_eq_true] at written
      split at read
      · rename_i fits
        cases read
        exact ⟨written.1, written.2, rfl, fits⟩
      · cases read
    · cases read
  · rintro ⟨some, written, rfl, fits⟩
    have all : (!cs.isEmpty && cs.all Char.isDigit) = true := by
      simpa [some] using written
    rw [if_pos all, if_pos fits]

theorem digits?_toDigits (fits : n ≤ high) : digits? high (Nat.toDigits 10 n) = some n :=
  digits?_eq_some_iff.mpr ⟨Nat.toDigits_ne_nil,
    fun _ mem => Nat.isDigit_of_mem_toDigits (by decide) (by decide) mem,
    Nat.ofDigitChars_ten_toDigits, fits⟩

/-- Digits have no sign in front. -/
theorem integer?_of_digits (digits : ∀ c ∈ text.toList, c.isDigit = true) :
    integer? low high text = (digits? high text.toList).map Int.ofNat := by
  unfold integer?
  split
  · rename_i signed
    exact absurd (digits '-' (by rw [signed]; exact List.mem_cons_self)) (by decide)
  · rename_i signed
    exact absurd (digits '+' (by rw [signed]; exact List.mem_cons_self)) (by decide)
  · rfl

theorem integer?_of_minus (signed : text.toList = '-' :: cs) :
    integer? low high text = (digits? low cs).map fun n : Nat => -(n : Int) := by
  simp only [integer?, signed]
  cases digits? low cs <;> rfl

theorem integer?_of_not_minus (low high : Nat) (unsigned : ∀ cs, text.toList ≠ '-' :: cs) :
    ∃ cs, integer? low high text = (digits? high cs).map Int.ofNat := by
  unfold integer?
  split
  · rename_i signed
    exact absurd signed (unsigned _)
  · exact ⟨_, rfl⟩
  · exact ⟨_, rfl⟩

theorem integer?_repr (least : -(low : Int) ≤ z) (most : z ≤ high) :
    integer? low high z.repr = some z := by
  rw [Int.repr_eq_if]
  split
  · rename_i positive
    have fits : z.toNat ≤ high := by omega
    have digits : ∀ c ∈ z.toNat.repr.toList, c.isDigit = true := by
      intro c mem
      rw [Nat.toList_repr] at mem
      exact Nat.isDigit_of_mem_toDigits (by decide) (by decide) mem
    rw [integer?_of_digits digits, Nat.toList_repr, digits?_toDigits fits]
    exact congrArg some (Int.toNat_of_nonneg positive)
  · rename_i negative
    have fits : (-z).toNat ≤ low := by omega
    have signed : ("-" ++ (-z).toNat.repr).toList = '-' :: Nat.toDigits 10 (-z).toNat := by
      rw [String.toList_append, Nat.toList_repr]
      rfl
    rw [integer?_of_minus signed, digits?_toDigits fits, Option.map_some,
      Int.toNat_of_nonneg (by omega), Int.neg_neg]

theorem integer?_fits (read : integer? low high text = some z) : -(low : Int) ≤ z ∧ z ≤ high := by
  by_cases signed : ∃ cs, text.toList = '-' :: cs
  · obtain ⟨cs, minus⟩ := signed
    rw [integer?_of_minus minus] at read
    obtain ⟨n, digits, rfl⟩ := Option.map_eq_some_iff.mp read
    obtain ⟨-, -, -, fits⟩ := digits?_eq_some_iff.mp digits
    omega
  · obtain ⟨cs, unsigned⟩ := integer?_of_not_minus low high (not_exists.mp signed)
    rw [unsigned] at read
    obtain ⟨n, digits, rfl⟩ := Option.map_eq_some_iff.mp read
    obtain ⟨-, -, -, fits⟩ := digits?_eq_some_iff.mp digits
    rw [Int.ofNat_eq_natCast]
    omega

theorem natural?_le (read : natural? high text = some n) : n ≤ high := by
  unfold natural? at read
  split at read
  · exact (digits?_eq_some_iff.mp read).2.2.2
  · exact (digits?_eq_some_iff.mp read).2.2.2

/-- An integer is written without white space and without any separator. -/
theorem mem_repr {c : Char} (mem : c ∈ z.repr.toList) : c = '-' ∨ c.isDigit = true := by
  rw [Int.repr_eq_if] at mem
  split at mem
  · rw [Nat.toList_repr] at mem
    exact .inr (Nat.isDigit_of_mem_toDigits (by decide) (by decide) mem)
  · rw [String.toList_append, Nat.toList_repr, List.mem_append] at mem
    rcases mem with sign | digit
    · exact .inl (List.mem_singleton.mp sign)
    · exact .inr (Nat.isDigit_of_mem_toDigits (by decide) (by decide) digit)

theorem isBlank_of_mem_repr {c : Char} (mem : c ∈ z.repr.toList) : isBlank c = false := by
  rcases mem_repr mem with rfl | digit
  · rfl
  · exact isBlank_of_isDigit digit

theorem trimChars_repr (z : Int) : trimChars z.repr.toList = z.repr.toList :=
  trimChars_of_ends (fun _ front => isBlank_of_mem_repr (List.mem_of_mem_head? front))
    fun _ back => isBlank_of_mem_repr (List.mem_of_mem_getLast? back)

end Screencast.Text
