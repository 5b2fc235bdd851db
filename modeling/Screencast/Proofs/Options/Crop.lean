import Screencast.Proofs.Geometry.Cropping
import Screencast.Proofs.Results
import Screencast.Proofs.Text.Fields
import Screencast.Proofs.Text.Integer

/-!
The notation of a crop. It gives width and height, a rectangle its edges, so that reading one takes
sums. Just the sound rectangles are read, each from its own text as well, and no sum is used that
overflows (`read_back`).
-/

namespace Screencast

namespace Crop

/-- The numbers of a crop in the order in which they are written. -/
def numbers? (text : String) : Option (List Int) :=
  (Text.fields ':' text.toList).mapM fun field => Text.int32? (.ofList (Text.trimChars field))

variable {text : String} {r : Rect}

theorem parse_eq (text : String) :
    parse text = match numbers? text with
      | some [width, height, x, y] =>
        if 0 < width && 0 < height && 0 ≤ x && 0 ≤ y &&
            x + width ≤ 2147483647 && y + height ≤ 2147483647 then
          .ok ⟨x, y, x + width, y + height⟩
        else .error (.configuration (.crop text))
      | _ => .error (.configuration (.crop text)) := rfl

theorem parse_eq_ok_iff :
    parse text = .ok r ↔
      numbers? text = some [r.width, r.height, r.left, r.top] ∧ Sound r := by
  constructor
  · intro parsed
    refine ⟨?_, sound_of_parse parsed⟩
    rw [parse_eq] at parsed
    split at parsed
    · rename_i width height x y numbers
      split at parsed
      · cases parsed
        have wide : x + width - x = width := by omega
        have tall : y + height - y = height := by omega
        rw [numbers, Rect.width, Rect.height, wide, tall]
      · cases parsed
    · cases parsed
  · rintro ⟨numbers, left, wide, right, top, tall, bottom⟩
    have across : r.left + r.width = r.right := by unfold Rect.width; omega
    have down : r.top + r.height = r.bottom := by unfold Rect.height; omega
    have some : 0 < r.width ∧ 0 < r.height := by unfold Rect.width Rect.height; omega
    rw [parse_eq, numbers]
    dsimp only
    rw [across, down, if_pos (by simp [*])]

/-- A text that lists the numbers of no sound rectangle is refused. -/
theorem parse_eq_error (refused : ∀ r, parse text ≠ .ok r) :
    parse text = .error (.configuration (.crop text)) := by
  rw [parse_eq] at refused ⊢
  split
  · split
    · rename_i numbers bounds
      simp [numbers, bounds] at refused
    · rfl
  · rfl

/-- Each number may have white space around it, and so may the whole. -/
theorem numbers?_trim (text : String) : numbers? (Text.trim text) = numbers? text := by
  have trimmed : ∀ text : String, numbers? text =
      ((Text.fields ':' text.toList).map Text.trimChars).mapM
        fun field => Text.int32? (.ofList field) := by
    intro text
    rw [List.mapM_map]
    rfl
  rw [trimmed, trimmed, Text.trim, String.toList_ofList, Text.trimmed_fields (by decide)]

theorem parse_trim_eq_ok_iff : parse (Text.trim text) = .ok r ↔ parse text = .ok r := by
  rw [parse_eq_ok_iff, parse_eq_ok_iff, numbers?_trim]

theorem toList_text (r : Rect) :
    r.text.toList = [':'].intercalate
      ([r.width, r.height, r.left, r.top].map fun z => z.repr.toList) := by
  have colon : (toString ":").toList = [':'] := rfl
  simp [Rect.text, List.intercalate_cons_cons, colon]

theorem colon_not_mem_repr (z : Int) : ':' ∉ z.repr.toList := by
  intro colon
  rcases Text.mem_repr colon with minus | digit
  · cases minus
  · cases digit

theorem words_of_sound (sound : Sound r) :
    ∀ z ∈ [r.width, r.height, r.left, r.top], -2147483648 ≤ z ∧ z ≤ 2147483647 := by
  obtain ⟨left, wide, right, top, tall, bottom⟩ := sound
  simp only [List.forall_mem_cons, Rect.width, Rect.height]
  refine ⟨?_, ?_, ?_, ?_, List.forall_mem_nil _⟩ <;> omega

theorem numbers?_text (sound : Sound r) :
    numbers? r.text = some [r.width, r.height, r.left, r.top] := by
  have separate : ∀ part ∈ [r.width, r.height, r.left, r.top].map fun z => z.repr.toList,
      ':' ∉ part := List.forall_mem_map.mpr fun z _ => colon_not_mem_repr z
  rw [numbers?, toList_text, Text.fields_intercalate (by simp) separate, Option.mapM_eq_some_iff,
    List.forall₂_map_left_iff, List.forall₂_same]
  intro z mem
  have fits := words_of_sound sound z mem
  rw [Text.trimChars_repr, String.ofList_toList]
  exact Text.integer?_repr (by omega) (by omega)

theorem words_of_numbers? {numbers : List Int} (listed : numbers? text = some numbers) :
    ∀ z ∈ numbers, -2147483648 ≤ z ∧ z < 2147483648 := by
  have read := (Option.mapM_eq_some_iff.mp listed).flip
  refine ((List.forall₂_and_left _ _).mp (read.imp fun z field fits => ⟨?_, fits⟩)).1
  have := Text.integer?_fits fits
  omega

end Crop

/-! ### In words

A sum of two words can overflow, and then there is none. -/

namespace Word

def sum? (a b : Int32) : Option Int32 :=
  if a.toBitVec.saddOverflow b.toBitVec then none else some (a + b)

/-- The rectangle of four numbers that a crop lists. -/
def rect? (width height x y : Int32) : Option Rect :=
  if width ≤ 0 ∨ height ≤ 0 ∨ x < 0 ∨ y < 0 then none
  else do
    let right ← sum? x width
    let bottom ← sum? y height
    return ⟨x.toInt, y.toInt, right.toInt, bottom.toInt⟩

/-- `Crop.parse`. -/
def parseCrop (text : String) : Except Error Rect :=
  match Crop.numbers? text with
  | some [width, height, x, y] =>
    match rect? (.ofInt width) (.ofInt height) (.ofInt x) (.ofInt y) with
    | some r => .ok r
    | none => .error (.configuration (.crop text))
  | _ => .error (.configuration (.crop text))

theorem sum?_eq_some_iff {a b c : Int32} :
    sum? a b = some c ↔ c.toInt = a.toInt + b.toInt := by
  have overflow : a.toBitVec.saddOverflow b.toBitVec = true ↔
      ¬ (-2147483648 ≤ a.toInt + b.toInt ∧ a.toInt + b.toInt < 2147483648) := by
    unfold BitVec.saddOverflow
    rw [Int32.toInt_toBitVec, Int32.toInt_toBitVec, Bool.or_eq_true, decide_eq_true_eq,
      decide_eq_true_eq]
    omega
  unfold sum?
  split
  · rename_i beyond
    have low := c.le_toInt
    have high := c.toInt_lt
    rw [overflow] at beyond
    constructor
    · nofun
    · intro total
      omega
  · rename_i within
    rw [overflow, not_not] at within
    have total : (a + b).toInt = a.toInt + b.toInt := by
      rw [Int32.toInt_add]
      exact Int.bmod_eq_of_le within.1 within.2
    rw [Option.some.injEq, ← Int32.toInt_inj, total]
    exact eq_comm

theorem exists_toInt {z : Int} (least : -2147483648 ≤ z) (most : z < 2147483648) :
    ∃ w : Int32, w.toInt = z :=
  ⟨.ofInt z, Int32.toInt_ofInt_of_le least most⟩

theorem rect?_eq_some_iff {width height x y : Int32} {r : Rect} :
    rect? width height x y = some r ↔
      [width.toInt, height.toInt, x.toInt, y.toInt] = [r.width, r.height, r.left, r.top] ∧
        Crop.Sound r := by
  have steps : rect? width height x y = some r ↔
      ¬ (width.toInt ≤ 0 ∨ height.toInt ≤ 0 ∨ x.toInt < 0 ∨ y.toInt < 0) ∧
      ∃ right, sum? x width = some right ∧ ∃ bottom, sum? y height = some bottom ∧
        (⟨x.toInt, y.toInt, right.toInt, bottom.toInt⟩ : Rect) = r := by
    simp [rect?, Int32.le_iff_toInt_le, Int32.lt_iff_toInt_lt, Option.bind_eq_some_iff]
  rw [steps]
  simp only [sum?_eq_some_iff, List.cons.injEq, and_true]
  constructor
  · rintro ⟨bounds, right, across, bottom, down, rfl⟩
    have rightmost := right.toInt_lt
    have lowest := bottom.toInt_lt
    refine ⟨⟨?_, ?_, rfl, rfl⟩, ?_⟩
    · dsimp only [Rect.width]
      omega
    · dsimp only [Rect.height]
      omega
    · constructor <;> dsimp only <;> omega
  · rintro ⟨⟨wide, tall, across, down⟩, sound⟩
    obtain ⟨left, some, right, top, high, bottom⟩ := sound
    unfold Rect.width at wide
    unfold Rect.height at tall
    obtain ⟨edge, vertical⟩ := exists_toInt (z := r.right) (by omega) (by omega)
    obtain ⟨ground, horizontal⟩ := exists_toInt (z := r.bottom) (by omega) (by omega)
    refine ⟨by omega, edge, by omega, ground, by omega, ?_⟩
    rw [across, down, vertical, horizontal]

theorem parseCrop_eq (text : String) : parseCrop text = Crop.parse text := by
  unfold parseCrop
  split
  · rename_i width height x y numbers
    have words := Crop.words_of_numbers? numbers
    simp only [List.forall_mem_cons] at words
    obtain ⟨wide, tall, across, down, -⟩ := words
    have same : ∀ r, rect? (.ofInt width) (.ofInt height) (.ofInt x) (.ofInt y) = some r ↔
        Crop.parse text = .ok r := by
      intro r
      rw [rect?_eq_some_iff, Int32.toInt_ofInt_of_le wide.1 wide.2,
        Int32.toInt_ofInt_of_le tall.1 tall.2, Int32.toInt_ofInt_of_le across.1 across.2,
        Int32.toInt_ofInt_of_le down.1 down.2, Crop.parse_eq_ok_iff, numbers, Option.some.injEq]
    split
    · rename_i r found
      exact ((same r).mp found).symm
    · rename_i missing
      refine (Crop.parse_eq_error fun r parsed => ?_).symm
      rw [(same r).mpr parsed] at missing
      cases missing
  · rename_i others
    refine (Crop.parse_eq_error fun r parsed => ?_).symm
    exact others _ _ _ _ (Crop.parse_eq_ok_iff.mp parsed).1

end Word

namespace Crop

/-- Whatever is read is sound and is read from its own text again. So is every sound rectangle, the
sides in its text are differences that do not overflow. Where a sum would, there is no rectangle. -/
theorem read_back :
    (∀ text r, parse text = .ok r → Sound r ∧ parse r.text = .ok r) ∧
    (∀ r, Sound r →
      Word.sides? r = some (r.width, r.height) ∧ parse r.text = .ok r) ∧
    ∀ text, Word.parseCrop text = parse text := by
  have printed : ∀ r, Sound r → parse r.text = .ok r :=
    fun r sound => parse_eq_ok_iff.mpr ⟨numbers?_text sound, sound⟩
  refine ⟨?_, ?_, Word.parseCrop_eq⟩
  · intro text r parsed
    have sound := sound_of_parse parsed
    exact ⟨sound, printed r sound⟩
  · intro r sound
    exact ⟨(Word.bounded_of_sound sound).sides?, printed r sound⟩

/-- Signs and white space are not kept. An edge may be the greatest word and not beyond. -/
theorem read_back_greatest :
    let r : Rect := ⟨2147483646, 0, 2147483647, 2⟩
    parse " +1:2 :2147483646:\t-0" = .ok r ∧ r.text = "1:2:2147483646:0" ∧ Sound r ∧
    parse "1:2:2147483646:0" = .ok r ∧
    Word.parseCrop "2:2:2147483646:0" = .error (.configuration (.crop "2:2:2147483646:0")) := by
  intro r
  obtain ⟨again, -, words⟩ := read_back
  have parsed : parse " +1:2 :2147483646:\t-0" = .ok r := rfl
  have written : r.text = "1:2:2147483646:0" := by decide
  obtain ⟨sound, same⟩ := again _ _ parsed
  exact ⟨parsed, written, sound, written ▸ same, words _⟩

end Crop

end Screencast
