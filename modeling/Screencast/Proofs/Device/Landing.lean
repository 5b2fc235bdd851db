import Screencast.Proofs.Device.Pointing
import Screencast.Proofs.Geometry.Cropping

/-!
Which positions of the picture have a place on the screen, and on which side of the edges it lies.
A position is mapped exactly if it names the picture that is encoded at the moment
(`mapped_of_changes`), although it is its turned frame that is looked at. A pixel of that picture is
mapped to a pixel of the captured area, but for the first row or column of a turned picture, which
comes to lie on the excluded edge (`landed_of_changes`, `landed_beside`).
-/

namespace Screencast

theorem Rect.Holds.covers_iff {r : Rect} {point : Point} (holds : r.Holds point) :
    r.Covers point ↔ point.x ≠ r.right ∧ point.y ≠ r.bottom := by
  obtain ⟨left, right, top, bottom⟩ := holds
  constructor
  · rintro ⟨-, beforeRight, -, beforeBottom⟩
    exact ⟨Int.ne_of_lt beforeRight, Int.ne_of_lt beforeBottom⟩
  · rintro ⟨notRight, notBottom⟩
    exact ⟨left, by omega, top, by omega⟩

/-! ### Layouts that a session can come to -/

namespace ScreenLayout

/-- Rotations stay within one full turn, and what is captured, if anything, lies on a screen whose
edges are signed words. -/
structure Proper (s : ScreenLayout) : Prop where
  device : s.deviceRotation < 4
  locked : ∀ r ∈ s.lockedOrientation, r < 4
  area : s.contentRect.isEmpty = false → s.contentRect.OnScreen
  sides : s.unlockedVideoSize.larger < 2147483648

theorem proper_compute (rotation : Nat) (display : Size) (crop : Option Rect) (maxSize : Nat)
    (lock : OrientationLock) : (compute rotation display crop maxSize lock).Proper where
  device := Nat.mod_lt rotation (by decide)
  locked := by
    intro r found
    cases lock with
    | unlocked => cases found
    | initial => cases found; exact Nat.mod_lt rotation (by decide)
    | locked wanted => cases found; exact Nat.mod_lt wanted (by decide)
  area := by
    intro some
    obtain ⟨left, top, right, bottom⟩ := edges_contentOf (rotation % 4) display crop
    obtain ⟨wide, tall⟩ := Rect.lt_of_not_isEmpty (Bool.eq_false_iff.mp some)
    exact ⟨left, Int.le_of_lt_add_one right, top, Int.le_of_lt_add_one bottom,
      Int.le_of_lt wide, Int.le_of_lt tall⟩
  sides := Nat.lt_of_le_of_lt (Size.larger_forVideo_le _ maxSize)
    (larger_contentOf_lt (rotation % 4) display crop)

variable {s : ScreenLayout}

theorem isEmpty_turnedTo (s : ScreenLayout) (rotation : Nat) :
    (s.turnedTo rotation).contentRect.isEmpty = s.contentRect.isEmpty := by
  simp only [turnedTo]
  split
  · rfl
  · exact s.contentRect.isEmpty_transpose

theorem lockedOrientation_turnedTo (s : ScreenLayout) (rotation : Nat) :
    (s.turnedTo rotation).lockedOrientation = s.lockedOrientation := by
  simp only [turnedTo]
  split <;> rfl

theorem Proper.turnedTo (h : s.Proper) (rotation : Nat) : (s.turnedTo rotation).Proper where
  device := by
    rw [deviceRotation_turnedTo]
    exact Nat.mod_lt rotation (by decide)
  locked := by
    rw [lockedOrientation_turnedTo]
    exact h.locked
  area := by
    rw [isEmpty_turnedTo]
    exact fun some => onScreen_turnedTo (h.area some) rotation
  sides := by
    rw [larger_turnedTo]
    exact h.sides

/-- The turns between the orientation of the device and the locked one undo each other. -/
theorem Proper.turns_cancel (h : s.Proper) :
    (s.videoRotation + s.inverseVideoRotation) % 4 = 0 := by
  unfold videoRotation inverseVideoRotation
  cases lock : s.lockedOrientation with
  | none => rfl
  | some locked =>
    have device := h.device
    have bound := h.locked locked lock
    dsimp only
    omega

/-- A frame that is turned back is the one before the lock if it is the one that is encoded. -/
theorem Proper.frame_rotate_iff (h : s.Proper) (p : Position) :
    (p.rotate s.inverseVideoRotation).frame = s.unlockedVideoSize ↔ p.frame = s.videoSize := by
  have cancel := h.turns_cancel
  rw [Position.frame_rotate, videoSize]
  by_cases even : s.videoRotation % 2 = 0
  · rw [if_pos (by omega), if_pos even]
  · rw [if_neg (by omega), if_neg even]
    constructor
    · rintro same
      rw [← same, Size.transpose_transpose]
    · rintro same
      rw [same, Size.transpose_transpose]

theorem videoSize_sides (s : ScreenLayout) :
    (0 < s.videoSize.width ∧ 0 < s.videoSize.height) ↔
      0 < s.unlockedVideoSize.width ∧ 0 < s.unlockedVideoSize.height := by
  unfold videoSize
  split
  · exact Iff.rfl
  · exact and_comm

end ScreenLayout

namespace Device

open GeometryChange

theorem proper_of_changes {options : Options} {platform : Platform} {d now : Device}
    (created : (create options platform).2 = .ok d) (changes : List GeometryChange)
    (changed : now.geometry = (changes.foldl change d).geometry) : now.layout.Proper := by
  have start := geometry_create created
  rw [← DeviceGeometry.turn_start] at start
  rw [layout, changed, geometry_foldl_change start changes]
  exact (ScreenLayout.proper_compute ..).turnedTo _

end Device

/-! ### Which positions are mapped -/

namespace DeviceGeometry

variable {g : DeviceGeometry} {p : Position} {point : Point}

theorem onScreen_isSome : (g.onScreen? p).isSome ↔
    (p.rotate g.layout.inverseVideoRotation).frame = g.layout.unlockedVideoSize ∧
      0 < g.layout.unlockedVideoSize.width ∧ 0 < g.layout.unlockedVideoSize.height := by
  constructor
  · intro mapped
    obtain ⟨point, mapped⟩ := Option.isSome_iff_exists.mp mapped
    exact frame_of_onScreen mapped
  · rintro ⟨present, width, height⟩
    simp [onScreen?, present, Nat.ne_of_gt width, Nat.ne_of_gt height]

theorem mapped_iff (proper : g.layout.Proper) : (g.onScreen? p).isSome ↔
    p.frame = g.layout.videoSize ∧ 0 < p.frame.width ∧ 0 < p.frame.height := by
  rw [onScreen_isSome, proper.frame_rotate_iff, ← g.layout.videoSize_sides]
  constructor
  · rintro ⟨present, sides⟩
    exact ⟨present, present ▸ sides⟩
  · rintro ⟨present, sides⟩
    exact ⟨present, present ▸ sides⟩

end DeviceGeometry

namespace Device

open GeometryChange

/-- What points to no place on the screen does nothing. -/
theorem handle_of_unmapped {d : Device} {m : ControlMessage} {p : Position}
    (points : m.position? = some p) (nowhere : d.geometry.onScreen? p = none) :
    d.handle m = (d, none) := by
  cases m with
  | touch t =>
    cases points
    simp [handle, touch, nowhere]
  | scroll s =>
    cases points
    simp [handle, scroll, nowhere]
  | _ => cases points

/-- Whatever became of the geometry, a position is mapped if it names the picture that is encoded
now and this picture is not empty, wherever in it or beside it the position lies. A touch or a
scroll at any other position is dropped. -/
theorem mapped_of_changes {options : Options} {platform : Platform} {d now : Device}
    (created : (create options platform).2 = .ok d) (changes : List GeometryChange)
    (changed : now.geometry = (changes.foldl change d).geometry) (p : Position) :
    ((now.geometry.onScreen? p).isSome ↔
      p.frame = now.layout.videoSize ∧ 0 < p.frame.width ∧ 0 < p.frame.height) ∧
    ∀ m : ControlMessage, m.position? = some p → p.frame ≠ now.layout.videoSize →
      now.handle m = (now, none) := by
  have mapped := DeviceGeometry.mapped_iff (p := p) (proper_of_changes created changes changed)
  refine ⟨mapped, fun m points stale => handle_of_unmapped points ?_⟩
  rw [← Option.not_isSome_iff_eq_none, mapped]
  exact fun present => stale present.1

/-- A sideways picture that is locked and turned: what names its size before the turn is stale. -/
theorem mapped_of_changes_sideways :
    ∃ d : Device,
      (create { socketDir := "", maxSize := 960, lock := .initial }
        { naturalSize := ⟨1080, 1920⟩, rotation := 1 }).2 = .ok d ∧
      let now := [.turn 2, .limit 512, .turn 4].foldl change d
      now.layout.unlockedVideoSize = ⟨288, 512⟩ ∧
        (now.geometry.onScreen? ⟨-5, 70000, 512, 288⟩).isSome ∧
        now.handle (.scroll ⟨⟨10, 10, 288, 512⟩, 1, 1, 0⟩) = (now, none) := by
  refine ⟨_, rfl, ?_⟩
  intro now
  have mapped := fun p => @mapped_of_changes
    { socketDir := "", maxSize := 960, lock := .initial }
    { naturalSize := ⟨1080, 1920⟩, rotation := 1 } _ now rfl [.turn 2, .limit 512, .turn 4] rfl p
  exact ⟨by decide, (mapped _).1.mpr (by decide), (mapped _).2 _ rfl (by decide)⟩

end Device

/-! ### Where they land -/

namespace Position

/-- A pixel of the picture. -/
structure Within (p : Position) : Prop where
  left : 0 ≤ p.x.toInt
  right : p.x.toInt < p.width.toNat
  top : 0 ≤ p.y.toInt
  bottom : p.y.toInt < p.height.toNat

/-- Turned, a first row or column of pixels comes to lie behind the last one. -/
def Spills (p : Position) (turns : Nat) : Prop :=
  match turns % 4 with
  | 1 => p.y.toInt = 0
  | 2 => p.x.toInt = 0 ∨ p.y.toInt = 0
  | 3 => p.x.toInt = 0
  | _ => False

variable {p : Position}

theorem Within.inside (within : p.Within) : p.Inside :=
  ⟨within.left, Int.le_of_lt within.right, within.top, Int.le_of_lt within.bottom⟩

theorem Within.spills_iff (within : p.Within) (turns : Nat) :
    p.Spills turns ↔ (p.turned turns).x = (p.rotate turns).frame.width ∨
      (p.turned turns).y = (p.rotate turns).frame.height := by
  obtain ⟨left, right, top, bottom⟩ := within
  obtain h | h | h | h := mod_four_cases turns <;>
    simp only [Spills, Position.turned, rotate, frame, h, false_iff] <;> omega

end Position

/-- Of a side, only its end is mapped to the far edge of the captured area. -/
theorem Mapping.placed_eq_far_iff {x extent side edge : Int} (some : 0 < side) (low : 0 ≤ x)
    (high : x ≤ side) (area : 0 < extent) :
    (along x extent side edge).placed = edge + extent ↔ x = side := by
  have product : 0 ≤ x * extent := Int.mul_nonneg low (Int.le_of_lt area)
  simp only [along, Int.tdiv_eq_ediv_of_nonneg product]
  constructor
  · intro far
    by_contra apart
    have less : x * extent < extent * side := by
      rw [Int.mul_comm extent]
      exact Int.mul_lt_mul_of_pos_right (by omega) area
    have short := Int.ediv_lt_of_lt_mul some less
    omega
  · rintro rfl
    rw [Int.mul_ediv_cancel_left _ (Int.ne_of_gt some)]

namespace DeviceGeometry

variable {g : DeviceGeometry} {p : Position} {point : Point}

/-- A picture of the present size has sides that signed words hold. -/
theorem larger_lt_of_onScreen (proper : g.layout.Proper) (mapped : g.onScreen? p = some point) :
    p.frame.larger < 2147483648 := by
  rw [← p.larger_rotate g.layout.inverseVideoRotation, (frame_of_onScreen mapped).1]
  exact proper.sides

theorem landed (proper : g.layout.Proper) (some : g.layout.contentRect.isEmpty = false)
    (within : p.Within) (mapped : g.onScreen? p = .some point) :
    g.layout.contentRect.Holds point ∧
      (g.layout.contentRect.Covers point ↔ ¬ p.Spills g.layout.inverseVideoRotation) := by
  have small := larger_lt_of_onScreen proper mapped
  obtain ⟨present, width, height⟩ := frame_of_onScreen mapped
  obtain ⟨left, right, top, bottom⟩ := within.inside.turned g.layout.inverseVideoRotation
  obtain ⟨wide, tall⟩ := Rect.lt_of_not_isEmpty (Bool.eq_false_iff.mp some)
  have spills := within.spills_iff g.layout.inverseVideoRotation
  rw [present] at right bottom spills
  obtain ⟨across, down, holds⟩ := fits_of_small (proper.area some) small within.inside mapped
  have farRight : (g.across p).placed = g.layout.contentRect.right ↔ _ :=
    g.layout.contentRect.left_add_width ▸ Mapping.placed_eq_far_iff (Int.natCast_pos.mpr width)
      left right (Int.sub_pos_of_lt wide)
  have farDown : (g.down p).placed = g.layout.contentRect.bottom ↔ _ :=
    g.layout.contentRect.top_add_height ▸ Mapping.placed_eq_far_iff (Int.natCast_pos.mpr height)
      top bottom (Int.sub_pos_of_lt tall)
  refine ⟨holds, ?_⟩
  rw [holds.covers_iff, spills, not_or, ← farRight, ← farDown,
    onScreen_placed small across down mapped]

end DeviceGeometry

namespace Device

open GeometryChange

/-- Whatever became of the geometry, a pixel of the picture is mapped into the captured area, edges
included, and to a pixel of that area if turning the picture does not make it spill. -/
theorem landed_of_changes {options : Options} {platform : Platform} {d now : Device}
    (created : (create options platform).2 = .ok d) (changes : List GeometryChange)
    (changed : now.geometry = (changes.foldl change d).geometry)
    (some : now.layout.contentRect.isEmpty = false) {p : Position} (within : p.Within)
    {point : Point} (mapped : now.geometry.onScreen? p = .some point) :
    now.layout.contentRect.Holds point ∧
      (now.layout.contentRect.Covers point ↔ ¬ p.Spills now.layout.inverseVideoRotation) :=
  DeviceGeometry.landed (proper_of_changes created changes changed) some within mapped

/-- The last column and the second row of a cropped picture that is upside down. -/
theorem landed_of_changes_upside_down :
    let p : Position := ⟨471, 1, 472, 512⟩
    ∃ d : Device,
      (create
        { socketDir := "", maxSize := 960, lock := .locked 1, crop := some ⟨0, 100, 1080, 1100⟩ }
        { naturalSize := ⟨1080, 1920⟩ }).2 = .ok d ∧
      let now := [.turn 2, .limit 512, .turn 3].foldl change d
      now.layout.contentRect = ⟨100, 0, 1100, 1080⟩ ∧ p.Within ∧
        now.geometry.onScreen? p = some ⟨102, 1077⟩ ∧
        ¬ p.Spills now.layout.inverseVideoRotation ∧ now.layout.contentRect.Covers ⟨102, 1077⟩ := by
  intro p
  refine ⟨_, rfl, ?_⟩
  intro now
  have within : p.Within := ⟨by decide, by decide, by decide, by decide⟩
  have mapped : now.geometry.onScreen? p = some ⟨102, 1077⟩ := by decide
  have stays : ¬ p.Spills now.layout.inverseVideoRotation := by
    change ¬ (p.x.toInt = 0 ∨ p.y.toInt = 0)
    decide
  have lands := @landed_of_changes
    { socketDir := "", maxSize := 960, lock := .locked 1, crop := some ⟨0, 100, 1080, 1100⟩ }
    { naturalSize := ⟨1080, 1920⟩ } _ now rfl [.turn 2, .limit 512, .turn 3] rfl rfl p within _
    mapped
  exact ⟨by decide, within, mapped, stays, lands.2.mpr stays⟩

/-- The picture stays upright, the device lies on its side: the first pixel of the picture is mapped
below the screen. -/
theorem landed_beside :
    ∃ d : Device,
      (create { socketDir := "", lock := .locked 0 } { naturalSize := ⟨1080, 1920⟩ }).2 = .ok d ∧
      let now := [.turn 1].foldl change d
      now.layout.contentRect = ⟨0, 0, 1920, 1080⟩ ∧
        (⟨0, 0, 1080, 1920⟩ : Position).Within ∧
        now.geometry.onScreen? ⟨0, 0, 1080, 1920⟩ = some ⟨0, 1080⟩ ∧
        ¬ now.layout.contentRect.Covers ⟨0, 1080⟩ := by
  refine ⟨_, rfl, by decide, ⟨by decide, by decide, by decide, by decide⟩, by decide, ?_⟩
  rintro ⟨-, -, -, above⟩
  exact absurd above (by decide)

end Device

end Screencast
