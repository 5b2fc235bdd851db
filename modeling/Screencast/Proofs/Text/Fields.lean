import Mathlib.Data.List.TakeDrop
import Mathlib.Tactic.Common
import Screencast.Proofs.Text.Blank
import Screencast.Text.Fields

/-!
Parts of a text between separators. Joined parts are found again if they hold no separator
(`fields_intercalate`), and white space around the whole is white space around its first and its last
part (`trimmed_fields`).
-/

namespace Screencast.Text

variable {separator : Char} {before : List Char}

theorem cut?_append (free : separator ∉ before) (after : List Char) :
    cut? separator (before ++ separator :: after) = some (before, after) := by
  have passed : ∀ c ∈ before, (c != separator) = true := by
    intro c mem
    rw [bne_iff_ne]
    rintro rfl
    exact free mem
  rw [cut?, List.span_eq_takeWhile_dropWhile, List.takeWhile_append_of_pos passed,
    List.dropWhile_append_of_pos passed]
  simp

theorem fieldsFrom_eq (separator : Char) (current cs : List Char) :
    fieldsFrom separator current cs = cs.splitOnPPrepend (· == separator) current := by
  induction cs generalizing current with
  | nil => rfl
  | cons c cs ih =>
    rw [fieldsFrom, List.splitOnPPrepend_cons_eq_if, ih, ih]
    rfl

theorem fields_eq (separator : Char) (cs : List Char) :
    fields separator cs = cs.splitOn separator := by
  rw [fields, fieldsFrom_eq, List.splitOnPPrepend_nil_right, List.splitOn_eq_splitOnP]

theorem fields_intercalate {parts : List (List Char)} (some : parts ≠ [])
    (free : ∀ part ∈ parts, separator ∉ part) :
    fields separator ([separator].intercalate parts) = parts := by
  rw [fields_eq, List.splitOn_intercalate separator free some]

/-! ### White space around the whole -/

variable {front back : List Char}

theorem not_mem_of_blank {cs : List Char} (blank : Blank cs) (ink : isBlank separator = false) :
    separator ∉ cs := by
  intro mem
  rw [blank separator mem] at ink
  cases ink

theorem fieldsFrom_skip (free : separator ∉ front) (current cs : List Char) :
    fieldsFrom separator current (front ++ cs) =
      fieldsFrom separator (front.reverse ++ current) cs := by
  induction front generalizing current with
  | nil => rfl
  | cons c front ih =>
    rw [List.mem_cons, not_or] at free
    have other : (c == separator) = false := by simpa using Ne.symm free.1
    rw [List.cons_append, fieldsFrom, other, if_neg (by decide), ih free.2, List.reverse_cons,
      List.append_assoc]
    rfl

theorem trimmed_fieldsFrom (blankFront : Blank front) (blankBack : Blank back)
    (ink : isBlank separator = false) (current cs : List Char) :
    (fieldsFrom separator (current ++ front.reverse) (cs ++ back)).map trimChars =
      (fieldsFrom separator current cs).map trimChars := by
  -- once the first separator is passed nothing is left of the white space in front
  induction cs generalizing current front with
  | nil =>
    have rest := fieldsFrom_skip (not_mem_of_blank blankBack ink) (current ++ front.reverse) []
    rw [List.append_nil] at rest
    rw [List.nil_append, rest, fieldsFrom, fieldsFrom, List.map_singleton, List.map_singleton]
    have whole : (back.reverse ++ (current ++ front.reverse)).reverse =
        front ++ current.reverse ++ back := by simp
    rw [whole, trimChars_padded blankFront blankBack]
  | cons c cs ih =>
    rw [List.cons_append, fieldsFrom, fieldsFrom]
    split
    · have first : (current ++ front.reverse).reverse = front ++ current.reverse ++ [] := by simp
      have none : Blank [] := List.forall_mem_nil _
      have rest := ih none []
      rw [List.reverse_nil, List.append_nil] at rest
      rw [List.map_cons, List.map_cons, rest, first, trimChars_padded blankFront none]
    · exact ih blankFront (c :: current)

theorem trimmed_fields (ink : isBlank separator = false) (cs : List Char) :
    (fields separator (trimChars cs)).map trimChars = (fields separator cs).map trimChars := by
  obtain ⟨front, back, blankFront, blankBack, whole⟩ := exists_padding cs
  have skipped := fieldsFrom_skip (not_mem_of_blank blankFront ink) [] (trimChars cs ++ back)
  have trimmed := trimmed_fieldsFrom blankFront blankBack ink [] (trimChars cs)
  rw [List.append_nil] at skipped
  rw [List.nil_append, ← skipped, ← List.append_assoc, ← whole] at trimmed
  exact trimmed.symm

end Screencast.Text
