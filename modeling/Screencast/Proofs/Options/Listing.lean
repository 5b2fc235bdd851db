import Screencast.Options.CodecOption
import Screencast.Proofs.Results
import Screencast.Proofs.Text.Fields
import Screencast.Proofs.Text.Integer
import Screencast.Record.Options

/-!
Lists of encoder options in writing. An option is written with its type, and a backslash stands before
each backslash and each comma; what is written so is read back (`parseAll_listing`).
-/

namespace Screencast

namespace OptionValue

def written : OptionValue → String
  | int n => n.repr
  | long n => n.repr
  | float x => x.text
  | string s => s

/-- Integers are of the signed type that goes with them, and no text ends with white space. Numbers of
single precision are left aside. -/
def Listable : OptionValue → Prop
  | int n => -2147483648 ≤ n ∧ n ≤ 2147483647
  | long n => -9223372036854775808 ≤ n ∧ n ≤ 9223372036854775807
  | float _ => False
  | string s => ∀ c ∈ s.toList.getLast?, Text.isBlank c = false

instance : DecidablePred Listable
  | int n => inferInstanceAs (Decidable (-2147483648 ≤ n ∧ n ≤ 2147483647))
  | long n => inferInstanceAs (Decidable (-9223372036854775808 ≤ n ∧ n ≤ 9223372036854775807))
  | float _ => inferInstanceAs (Decidable False)
  | string s => Option.decidableForallMem s.toList.getLast?

end OptionValue

namespace CodecOption

/-- A key cannot hold what ends it, and white space in front of it would be lost. -/
structure Listable (o : CodecOption) : Prop where
  named : o.key.toList ≠ []
  colon : ':' ∉ o.key.toList
  equals : '=' ∉ o.key.toList
  front : ∀ c ∈ o.key.toList.head?, Text.isBlank c = false
  value : o.value.Listable

instance : DecidablePred Listable := fun o =>
  -- one character is looked at, and not all that there are
  have : Decidable (∀ c ∈ o.key.toList.head?, Text.isBlank c = false) :=
    Option.decidableForallMem o.key.toList.head?
  decidable_of_iff (o.key.toList ≠ [] ∧ ':' ∉ o.key.toList ∧ '=' ∉ o.key.toList ∧
      (∀ c ∈ o.key.toList.head?, Text.isBlank c = false) ∧ o.value.Listable)
    ⟨fun ⟨named, colon, equals, front, value⟩ => ⟨named, colon, equals, front, value⟩,
      fun h => ⟨h.named, h.colon, h.equals, h.front, h.value⟩⟩

/-- The option as `key:type=value`. -/
def item (o : CodecOption) : List Char :=
  o.key.toList ++ ':' :: o.value.typeName.toList ++ '=' :: o.value.written.toList

def escape : List Char → List Char
  | [] => []
  | c :: cs => if c = '\\' ∨ c = ',' then '\\' :: c :: escape cs else c :: escape cs

def listing (options : List CodecOption) : String :=
  .ofList ([','].intercalate (options.map fun o => escape o.item))

/-! ### Items -/

/-- The items of a text that are not blank, trimmed. -/
def itemTexts (text : String) : List String :=
  (((items text).map Text.trimChars).filter fun item => !item.isEmpty).map String.ofList

theorem parseAll_eq_ok_iff {text : String} {options : List CodecOption} :
    parseAll text = .ok options ↔
      List.Forall₂ (fun item option => parse item = .ok option) (itemTexts text) options := by
  rw [parseAll, Except.mapM_eq_ok_iff, itemTexts, List.forall₂_map_left_iff]

theorem itemsFrom_escape (current cs rest : List Char) :
    itemsFrom current false (escape cs ++ rest) = itemsFrom (cs.reverse ++ current) false rest := by
  induction cs generalizing current with
  | nil => rfl
  | cons c cs ih =>
    have whole : (c :: cs).reverse ++ current = cs.reverse ++ c :: current := by simp
    rw [whole, ← ih, escape]
    split
    · simp [itemsFrom]
    · rename_i plain
      rw [not_or] at plain
      simp [itemsFrom, plain]

theorem items_intercalate (first : List Char) (more : List (List Char)) :
    itemsFrom [] false ([','].intercalate ((first :: more).map escape)) = first :: more := by
  induction more generalizing first with
  | nil =>
    have read := itemsFrom_escape [] first []
    rw [List.append_nil, List.append_nil] at read
    rw [List.map_singleton, List.intercalate_singleton, read, itemsFrom, List.reverse_reverse]
  | cons second more ih =>
    have ended : itemsFrom first.reverse false
        (',' :: [','].intercalate ((second :: more).map escape)) =
          first :: itemsFrom [] false ([','].intercalate ((second :: more).map escape)) := by
      simp [itemsFrom]
    rw [List.map_cons, List.map_cons, List.intercalate_cons_cons, List.append_assoc,
      itemsFrom_escape, List.append_nil, List.singleton_append, ← List.map_cons, ended, ih]

theorem items_listing {options : List CodecOption} (some : options ≠ []) :
    items (listing options) = options.map item := by
  cases options with
  | nil => exact absurd rfl some
  | cons o more =>
    have read := items_intercalate o.item (more.map item)
    rw [← List.map_cons, List.map_map] at read
    rw [items, listing, String.toList_ofList]
    exact read

/-! ### One item -/

variable {o : CodecOption}

theorem back_written {value : OptionValue} (listable : value.Listable) :
    ∀ c ∈ value.written.toList.getLast?, Text.isBlank c = false := by
  cases value with
  | int n | long n => exact fun c last => Text.isBlank_of_mem_repr (List.mem_of_mem_getLast? last)
  | float x => exact listable.elim
  | string s => exact listable

theorem trimChars_item (listable : o.Listable) : Text.trimChars o.item = o.item := by
  apply Text.trimChars_of_ends
  · rw [item, List.append_assoc, List.head?_append_of_ne_nil _ listable.named]
    exact listable.front
  · intro c last
    rw [item, List.getLast?_append_cons, List.getLast?_cons] at last
    cases value : o.value.written.toList.getLast? with
    | none =>
      rw [value] at last
      cases last
      rfl
    | some back =>
      rw [value] at last
      cases last
      exact back_written listable.value back value

theorem readValue_written {value : OptionValue} (listable : value.Listable) :
    readValue value.typeName value.written = .ok value := by
  cases value with
  | int n =>
    obtain ⟨least, most⟩ := listable
    have read : Text.int32? n.repr = some n := Text.integer?_repr (by omega) (by omega)
    simp [readValue, OptionValue.typeName, OptionValue.written, read]
  | long n =>
    obtain ⟨least, most⟩ := listable
    have read : Text.int64? n.repr = some n := Text.integer?_repr (by omega) (by omega)
    simp [readValue, OptionValue.typeName, OptionValue.written, read]
  | float x => exact listable.elim
  | string s => rfl

theorem equals_not_mem_typeName (value : OptionValue) : '=' ∉ value.typeName.toList := by
  cases value <;> simp only [OptionValue.typeName] <;> decide

theorem parse_item (listable : o.Listable) : parse (.ofList o.item) = .ok o := by
  have left : '=' ∉ o.key.toList ++ ':' :: o.value.typeName.toList := by
    rw [List.mem_append, List.mem_cons, not_or, not_or]
    exact ⟨listable.equals, by decide, equals_not_mem_typeName o.value⟩
  have cutValue := Text.cut?_append left o.value.written.toList
  have cutKey := Text.cut?_append listable.colon o.value.typeName.toList
  have named : o.key.toList.isEmpty = false := by simpa using listable.named
  have value := readValue_written listable.value
  have whole : read (.ofList o.item) = .ok o := by
    rw [read, String.toList_ofList, item, cutValue]
    simp [cutKey, named, value]
  rw [parse, whole]

theorem itemTexts_listing {options : List CodecOption} (listable : ∀ o ∈ options, o.Listable) :
    itemTexts (listing options) = options.map fun o => .ofList o.item := by
  by_cases none : options = []
  · subst none
    rfl
  have trimmed : (options.map item).map Text.trimChars = options.map item := by
    rw [List.map_map]
    exact List.map_congr_left fun o mem => trimChars_item (listable o mem)
  have kept : (options.map item).filter (fun item => !item.isEmpty) = options.map item := by
    rw [List.filter_eq_self]
    rintro cs mem
    obtain ⟨o, -, rfl⟩ := List.mem_map.mp mem
    simp [item]
  rw [itemTexts, items_listing none, trimmed, kept, List.map_map]
  rfl

/-- What is written is read back: keys may hold anything but colons and equals signs, and texts any
character, those that separate and escape included. -/
theorem parseAll_listing {options : List CodecOption} (listable : ∀ o ∈ options, o.Listable) :
    parseAll (listing options) = .ok options := by
  rw [parseAll_eq_ok_iff, itemTexts_listing listable, List.forall₂_map_left_iff,
    List.forall₂_same]
  exact fun o mem => parse_item (listable o mem)

/-- Separators and backslashes in keys and in texts, also at their ends, and the extreme integers. -/
theorem parseAll_listing_separators :
    let options : List CodecOption :=
      [⟨"a,b\\ c", .int (-2147483648)⟩, ⟨"profile", .string " x=1:2,\\"⟩,
        ⟨"\\ ", .long 9223372036854775807⟩, ⟨",", .string ""⟩]
    let text := "a\\,b\\\\ c:int=-2147483648,profile:string= x=1:2\\,\\\\," ++
      "\\\\ :long=9223372036854775807,\\,:string="
    (∀ o ∈ options, o.Listable) ∧ listing options = text ∧ parseAll text = .ok options := by
  intro options text
  have listable : ∀ o ∈ options, o.Listable := by decide
  have same : listing options = text := by decide +kernel
  exact ⟨listable, same, same ▸ parseAll_listing listable⟩

end CodecOption

end Screencast
