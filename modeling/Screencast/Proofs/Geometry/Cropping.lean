import Screencast.Options.Basic
import Screencast.Proofs.Geometry.Scaling
import Screencast.Proofs.Geometry.Turning

/-!
Which pixels of a screen are captured: those that lie on the screen and in the crop, which is given
for the natural orientation (`covers_contentOf`). If there are none, nothing is captured at all. The
edges are signed words, and no difference that is taken on the way overflows (`Word.layout?_eq`).
-/

namespace Screencast

def Point.transpose (p : Point) : Point := ⟨p.y, p.x⟩

namespace Rect

/-- A pixel of the rectangle: its right and bottom edges are excluded. -/
def Covers (r : Rect) (point : Point) : Prop :=
  r.left ≤ point.x ∧ point.x < r.right ∧ r.top ≤ point.y ∧ point.y < r.bottom

/-- The common part of two rectangles, which is empty if there is none. -/
def common (r s : Rect) : Rect :=
  ⟨max r.left s.left, max r.top s.top, min r.right s.right, min r.bottom s.bottom⟩

variable {r s : Rect} {p : Point}

theorem covers_transpose : r.transpose.Covers p ↔ r.Covers p.transpose := by
  constructor
  · rintro ⟨left, right, top, bottom⟩
    exact ⟨top, bottom, left, right⟩
  · rintro ⟨left, right, top, bottom⟩
    exact ⟨top, bottom, left, right⟩

theorem covers_common : (r.common s).Covers p ↔ r.Covers p ∧ s.Covers p := by
  simp only [Covers, common]
  omega

theorem isEmpty_iff : r.isEmpty = true ↔ r.right ≤ r.left ∨ r.bottom ≤ r.top := by
  rw [isEmpty, Bool.or_eq_true, decide_eq_true_eq, decide_eq_true_eq, width, height]
  omega

/-- A rectangle without pixels is empty, and only such a one. -/
theorem isEmpty_iff_covers : r.isEmpty = true ↔ ∀ p, ¬ r.Covers p := by
  rw [isEmpty_iff]
  constructor
  · rintro empty p ⟨left, right, top, bottom⟩
    omega
  · intro none
    by_contra some
    exact none ⟨r.left, r.top⟩ ⟨Int.le_refl _, by dsimp; omega, Int.le_refl _, by dsimp; omega⟩

theorem intersect?_eq (r s : Rect) :
    r.intersect? s = if (r.common s).isEmpty then none else some (r.common s) := rfl

end Rect

theorem Size.forVideo_zero (maxSize : Nat) : (⟨0, 0⟩ : Size).forVideo maxSize = ⟨0, 0⟩ := by
  simp [forVideo, onGrid]

namespace ScreenLayout

/-- The crop at this rotation of the screen. -/
def cropAt (rotation : Nat) (crop : Rect) : Rect :=
  if rotation % 2 = 0 then crop else crop.transpose

theorem contentOf_crop (rotation : Nat) (display : Size) (crop : Rect) :
    contentOf rotation display (some crop) =
      let captured := display.toRect.common (cropAt rotation crop)
      if captured.isEmpty then .zero else captured := by
  change (display.toRect.intersect? (cropAt rotation crop)).getD .zero = _
  rw [Rect.intersect?_eq]
  dsimp only
  split <;> rfl

/-- The pixels of the screen that lie in the crop. -/
def Captures (rotation : Nat) (display : Size) (crop : Rect) (p : Point) : Prop :=
  (0 ≤ p.x ∧ p.x < display.width ∧ 0 ≤ p.y ∧ p.y < display.height) ∧
    crop.Covers (if rotation % 2 = 0 then p else p.transpose)

variable {rotation : Nat} {display : Size} {crop : Rect} {p : Point}

theorem covers_cropAt :
    (cropAt rotation crop).Covers p ↔
      crop.Covers (if rotation % 2 = 0 then p else p.transpose) := by
  unfold cropAt
  split
  · rfl
  · exact Rect.covers_transpose

theorem toRect_of_small (small : display.larger ≤ 2147483647) :
    display.toRect = ⟨0, 0, display.width, display.height⟩ := by
  unfold Size.larger at small
  rw [Size.toRect, signed32_eq (by omega) (by omega), signed32_eq (by omega) (by omega)]

theorem captures_iff (small : display.larger ≤ 2147483647) :
    (display.toRect.common (cropAt rotation crop)).Covers p ↔
      Captures rotation display crop p := by
  rw [Rect.covers_common, covers_cropAt, toRect_of_small small]
  rfl

theorem covers_contentOf (small : display.larger ≤ 2147483647) :
    (contentOf rotation display (some crop)).Covers p ↔ Captures rotation display crop p := by
  rw [contentOf_crop, ← captures_iff small]
  dsimp only
  split
  · rename_i empty
    have none : ¬ Rect.zero.Covers p := Rect.isEmpty_iff_covers.mp rfl p
    exact iff_of_false none (Rect.isEmpty_iff_covers.mp empty p)
  · rfl

theorem contentOf_eq_zero (small : display.larger ≤ 2147483647)
    (none : ∀ p, ¬ Captures rotation display crop p) :
    contentOf rotation display (some crop) = .zero := by
  rw [contentOf_crop]
  dsimp only
  rw [if_pos (Rect.isEmpty_iff_covers.mpr fun p inside => none p ((captures_iff small).mp inside))]

theorem videoSize_of_empty {s : ScreenLayout} (none : s.unlockedVideoSize = ⟨0, 0⟩) :
    s.videoSize = ⟨0, 0⟩ := by
  rw [videoSize, none]
  split <;> rfl

end ScreenLayout

/-! ### The notation of a crop -/

/-- What a crop is that can be written: it is not empty, and its edges are signed words that are not
negative. -/
structure Crop.Sound (r : Rect) : Prop where
  left : 0 ≤ r.left
  wide : r.left < r.right
  right : r.right ≤ 2147483647
  top : 0 ≤ r.top
  tall : r.top < r.bottom
  bottom : r.bottom ≤ 2147483647

theorem Crop.sound_of_parse {text : String} {crop : Rect} (parsed : Crop.parse text = .ok crop) :
    Crop.Sound crop := by
  unfold Crop.parse at parsed
  dsimp only at parsed
  split at parsed
  · rename_i width height x y numbers
    split at parsed
    · rename_i bounds
      cases parsed
      simp only [Bool.and_eq_true, decide_eq_true_eq] at bounds
      obtain ⟨⟨⟨⟨⟨wide, tall⟩, left⟩, top⟩, right⟩, bottom⟩ := bounds
      exact ⟨left, by dsimp; omega, right, top, by dsimp; omega, bottom⟩
    · cases parsed
  · cases parsed

/-! ### In words

Edges are signed words, and so is each difference of two of them. -/

namespace Word

/-- A number, if it is a signed word of 32 bits. -/
def signed? (n : Int) : Option Int :=
  if -2147483648 ≤ n ∧ n < 2147483648 then some n else none

def sides? (r : Rect) : Option (Int × Int) := do
  let width ← signed? (r.right - r.left)
  let height ← signed? (r.bottom - r.top)
  return (width, height)

def screen? (display : Size) : Option Rect := do
  let right ← signed? display.width
  let bottom ← signed? display.height
  return ⟨0, 0, right, bottom⟩

/-- `ScreenLayout.contentOf`. A crop that lies beside the screen is reported with its sides. -/
def content? (rotation : Nat) (display : Size) (crop : Rect) : Option Rect := do
  let screen ← screen? display
  let crop := ScreenLayout.cropAt rotation crop
  let (width, height) ← sides? (screen.common crop)
  if width ≤ 0 || height ≤ 0 then
    let _reported ← sides? crop
    return .zero
  else return screen.common crop

/-- The captured area and the size of its video, as `ScreenLayout.compute` has them. -/
def layout? (rotation : Nat) (display : Size) (crop : Rect) (maxSize : UInt32) :
    Option (Rect × Size) := do
  let content ← content? rotation display crop
  let (width, height) ← sides? content
  let (w, h) ← forVideo? (.ofNat (max width 0).toNat) (.ofNat (max height 0).toNat) maxSize
  return (content, ⟨w.toNat, h.toNat⟩)

/-- No edge is negative, so that no difference of two of them overflows. -/
structure Bounded (r : Rect) : Prop where
  left : 0 ≤ r.left ∧ r.left ≤ 2147483647
  top : 0 ≤ r.top ∧ r.top ≤ 2147483647
  right : 0 ≤ r.right ∧ r.right ≤ 2147483647
  bottom : 0 ≤ r.bottom ∧ r.bottom ≤ 2147483647

variable {r s : Rect} {display : Size} {crop : Rect}

theorem signed?_eq {n : Int} (low : -2147483648 ≤ n) (high : n < 2147483648) :
    signed? n = some n := if_pos ⟨low, high⟩

theorem Bounded.sides? (bounded : Bounded r) : sides? r = some (r.width, r.height) := by
  obtain ⟨left, top, right, bottom⟩ := bounded
  rw [Word.sides?, signed?_eq (by omega) (by omega), signed?_eq (by omega) (by omega)]
  rfl

theorem Bounded.sides_le (bounded : Bounded r) : r.width ≤ 2147483647 ∧ r.height ≤ 2147483647 := by
  obtain ⟨left, top, right, bottom⟩ := bounded
  unfold Rect.width Rect.height
  omega

theorem Bounded.common (first : Bounded r) (second : Bounded s) : Bounded (r.common s) := by
  obtain ⟨left, top, right, bottom⟩ := first
  obtain ⟨left', top', right', bottom'⟩ := second
  constructor <;> dsimp only [Rect.common] <;> omega

theorem bounded_zero : Bounded .zero := by
  constructor <;> decide

theorem bounded_toRect (small : display.larger ≤ 2147483647) : Bounded display.toRect := by
  rw [ScreenLayout.toRect_of_small small]
  unfold Size.larger at small
  constructor <;> dsimp only <;> omega

theorem Bounded.transpose (bounded : Bounded r) : Bounded r.transpose :=
  ⟨bounded.top, bounded.left, bounded.bottom, bounded.right⟩

theorem bounded_of_sound (sound : Crop.Sound crop) : Bounded crop := by
  obtain ⟨left, wide, right, top, tall, bottom⟩ := sound
  constructor <;> omega

theorem bounded_cropAt (sound : Crop.Sound crop) (rotation : Nat) :
    Bounded (ScreenLayout.cropAt rotation crop) := by
  unfold ScreenLayout.cropAt
  split
  · exact bounded_of_sound sound
  · exact (bounded_of_sound sound).transpose

theorem screen?_eq (small : display.larger ≤ 2147483647) :
    screen? display = some display.toRect := by
  rw [ScreenLayout.toRect_of_small small]
  unfold Size.larger at small
  rw [screen?, signed?_eq (by omega) (by omega), signed?_eq (by omega) (by omega)]
  rfl

theorem content?_eq (sound : Crop.Sound crop) (small : display.larger ≤ 2147483647)
    (rotation : Nat) :
    ∃ content, content? rotation display crop = some content ∧ Bounded content ∧
      content = ScreenLayout.contentOf rotation display (some crop) := by
  have turned := bounded_cropAt sound rotation
  have captured := (bounded_toRect small).common turned
  rw [ScreenLayout.contentOf_crop]
  simp only [content?, screen?_eq small, captured.sides?, turned.sides?, Option.bind_eq_bind,
    Option.bind_some, Option.pure_def]
  change ∃ content, (if (display.toRect.common (ScreenLayout.cropAt rotation crop)).isEmpty = true
    then some Rect.zero else some (display.toRect.common (ScreenLayout.cropAt rotation crop))) =
      some content ∧ _
  split
  · exact ⟨_, rfl, bounded_zero, rfl⟩
  · exact ⟨_, rfl, captured, rfl⟩

theorem toNat_side {side : Int} (small : side ≤ 2147483647) :
    (UInt32.ofNat (max side 0).toNat).toNat = side.toNat := by
  have word : (max side 0).toNat < UInt32.size := by
    unfold UInt32.size
    omega
  rw [UInt32.toNat_ofNat_of_lt' word]
  omega

/-- Nothing overflows, on whatever screen and whichever crop can be written. -/
theorem layout?_eq (sound : Crop.Sound crop) (small : display.larger ≤ 2147483647)
    (rotation : Nat) (maxSize : UInt32) :
    layout? rotation display crop maxSize =
      some (ScreenLayout.contentOf rotation display (some crop),
        (ScreenLayout.contentOf rotation display (some crop)).size.forVideo maxSize.toNat) := by
  obtain ⟨content, computed, bounded, same⟩ := content?_eq sound small rotation
  rw [← same]
  obtain ⟨width, height⟩ := bounded.sides_le
  obtain ⟨w, h, scaled, video⟩ := forVideo?_eq (.ofNat (max content.width 0).toNat)
    (.ofNat (max content.height 0).toNat) maxSize
  rw [toNat_side width, toNat_side height] at video
  rw [Rect.size, video, layout?, computed]
  simp only [bounded.sides?, scaled, Option.bind_eq_bind, Option.bind_some, Option.pure_def]

end Word

namespace ScreenLayout

/-- What is captured with a crop, at every rotation of every screen: nothing overflows on the way to
it, it consists of the pixels of the screen that lie in the crop, and if there are none it is the
zero rectangle, of which no video is made. -/
theorem captured_of_crop {text : String} {crop : Rect} (parsed : Crop.parse text = .ok crop)
    {display : Size} (small : display.larger ≤ 2147483647) (rotation : Nat) (maxSize : UInt32)
    (lock : OrientationLock) :
    let s := compute rotation display (some crop) maxSize.toNat lock
    Word.layout? rotation display crop maxSize = some (s.contentRect, s.unlockedVideoSize) ∧
    (∀ p, s.contentRect.Covers p ↔ Captures rotation display crop p) ∧
    ((∀ p, ¬ Captures rotation display crop p) →
      s.contentRect = .zero ∧ s.videoSize = ⟨0, 0⟩) := by
  intro s
  have content : s.contentRect = contentOf rotation display (some crop) :=
    contentOf_congr (Nat.mod_mod_of_dvd rotation (by decide)) display (some crop)
  have video : s.unlockedVideoSize = s.contentRect.size.forVideo maxSize.toNat := rfl
  rw [video, content]
  refine ⟨Word.layout?_eq (Crop.sound_of_parse parsed) small rotation maxSize,
    fun p => covers_contentOf small, fun none => ?_⟩
  have nothing := contentOf_eq_zero small none
  refine ⟨nothing, videoSize_of_empty ?_⟩
  rw [video, content, nothing]
  exact Size.forVideo_zero _

/-- On a screen that lies on its side one crop reaches over the lower edge, and another one begins
right below it. -/
theorem captured_of_crop_sideways :
    let display : Size := ⟨1920, 1080⟩
    let edge := compute 1 display (some ⟨1000, 50, 1300, 250⟩) 0 .unlocked
    let below := compute 3 display (some ⟨1080, 0, 1090, 2147483647⟩) 512 .initial
    Crop.parse "300:200:1000:50" = .ok ⟨1000, 50, 1300, 250⟩ ∧
    Crop.parse " 10:2147483647 : 1080:0" = .ok ⟨1080, 0, 1090, 2147483647⟩ ∧
    display.larger ≤ 2147483647 ∧
    Word.layout? 1 display ⟨1000, 50, 1300, 250⟩ 0 = some (⟨50, 1000, 250, 1080⟩, ⟨200, 80⟩) ∧
    edge.contentRect.Covers ⟨60, 1079⟩ ∧ ¬ edge.contentRect.Covers ⟨60, 999⟩ ∧
    below.contentRect = .zero ∧ below.videoSize = ⟨0, 0⟩ := by
  intro display edge below
  have parsed : Crop.parse "300:200:1000:50" = .ok ⟨1000, 50, 1300, 250⟩ := rfl
  have parsedBelow : Crop.parse " 10:2147483647 : 1080:0" = .ok ⟨1080, 0, 1090, 2147483647⟩ := rfl
  have small : display.larger ≤ 2147483647 := by decide
  obtain ⟨words, pixels, -⟩ := captured_of_crop parsed small 1 0 .unlocked
  have area : edge.contentRect = ⟨50, 1000, 250, 1080⟩ := by decide
  have video : edge.unlockedVideoSize = ⟨200, 80⟩ := by decide
  obtain ⟨-, -, nothing⟩ := captured_of_crop parsedBelow small 3 512 .initial
  have none : ∀ p, ¬ Captures 3 display ⟨1080, 0, 1090, 2147483647⟩ p := by
    rintro p ⟨⟨-, -, -, bottom⟩, left, -⟩
    change 1080 ≤ p.y at left
    change p.y < 1080 at bottom
    omega
  refine ⟨parsed, parsedBelow, small, ?_, ?_, ?_, nothing none⟩
  · rw [← area, ← video]
    exact words
  · refine (pixels _).mpr ?_
    unfold Captures Rect.Covers
    decide
  · refine fun inside => absurd ((pixels _).mp inside) ?_
    unfold Captures Rect.Covers
    decide

end ScreenLayout

end Screencast
