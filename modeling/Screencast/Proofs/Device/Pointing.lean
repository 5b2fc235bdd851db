import Screencast.Control.Handling
import Screencast.Proofs.Control.Grammar
import Screencast.Proofs.Device.Layout

/-!
Where a position of the picture ends up on the screen, against a mapping whose numbers have no bound
(`Mapping`). Nothing overflows as long as the position lies in the picture that it names
(`pointed_of_changes`). The desktop may name any position, though, and some are mapped to where they
do not belong (`pointed_beyond`).
-/

namespace Screencast

def InWord (n : Int) : Prop := -2147483648 ≤ n ∧ n < 2147483648

def InLong (n : Int) : Prop := -9223372036854775808 ≤ n ∧ n < 9223372036854775808

theorem InWord.signed32 {n : Int} (h : InWord n) : signed32 n = n := signed32_eq h.1 h.2

/-- No product of two words overflows a long. -/
theorem InWord.mul {a b : Int} (ha : InWord a) (hb : InWord b) : InLong (a * b) := by
  have size : (a * b).natAbs ≤ 2147483648 * 2147483648 := by
    rw [Int.natAbs_mul]
    exact Nat.mul_le_mul (by unfold InWord at ha; omega) (by unfold InWord at hb; omega)
  unfold InLong
  omega

/-- A coordinate counted from the other side. -/
theorem toInt_across {side : UInt32} {at_ : Int32} (small : side.toNat < 2147483648)
    (fits : InWord (side.toNat - at_.toInt)) :
    (side.toInt32 - at_).toInt = side.toNat - at_.toInt := by
  have same : side.toInt32.toInt = side.toNat :=
    BitVec.toInt_eq_toNat_of_lt (by change 2 * side.toNat < _; omega)
  rw [Int32.toInt_sub, same]
  exact fits.signed32

theorem mod_four_cases (n : Nat) : n % 4 = 0 ∨ n % 4 = 1 ∨ n % 4 = 2 ∨ n % 4 = 3 := by omega

namespace Position

/-- A position as the desktop may send it. -/
def Narrow (p : Position) : Prop := p.width.toNat < 65536 ∧ p.height.toNat < 65536

/-- In the picture, its right and bottom edges included. -/
structure Inside (p : Position) : Prop where
  left : 0 ≤ p.x.toInt
  right : p.x.toInt ≤ p.width.toNat
  top : 0 ≤ p.y.toInt
  bottom : p.y.toInt ≤ p.height.toNat

/-- Where the point lies after some quarter turns, if numbers have no bound. -/
def turned (p : Position) (turns : Nat) : Point :=
  match turns % 4 with
  | 1 => ⟨p.height.toNat - p.y.toInt, p.x.toInt⟩
  | 2 => ⟨p.width.toNat - p.x.toInt, p.height.toNat - p.y.toInt⟩
  | 3 => ⟨p.y.toInt, p.width.toNat - p.x.toInt⟩
  | _ => ⟨p.x.toInt, p.y.toInt⟩

variable {p : Position} {turns : Nat}

theorem Narrow.larger_lt (narrow : p.Narrow) : p.frame.larger < 2147483648 := by
  obtain ⟨width, height⟩ := narrow
  simp only [Size.larger, frame]
  omega

/-- An odd number of quarter turns exchanges the sides of the picture. -/
theorem frame_rotate (p : Position) (turns : Nat) :
    (p.rotate turns).frame = if turns % 2 = 0 then p.frame else p.frame.transpose := by
  unfold rotate
  obtain h | h | h | h := mod_four_cases turns
  · rw [if_pos (by omega), h]
    rfl
  · rw [if_neg (by omega), h]
    rfl
  · rw [if_pos (by omega), h]
    rfl
  · rw [if_neg (by omega), h]
    rfl

theorem larger_rotate (p : Position) (turns : Nat) :
    (p.rotate turns).frame.larger = p.frame.larger := by
  rw [frame_rotate]
  split
  · rfl
  · exact p.frame.larger_transpose

theorem rotate_exact (small : p.frame.larger < 2147483648) (x : InWord (p.turned turns).x)
    (y : InWord (p.turned turns).y) :
    (p.rotate turns).x.toInt = (p.turned turns).x ∧
      (p.rotate turns).y.toInt = (p.turned turns).y := by
  obtain ⟨width, height⟩ := Nat.max_lt.mp small
  obtain h | h | h | h := mod_four_cases turns <;> simp only [turned, rotate, h] at x y ⊢
  · exact ⟨trivial, trivial⟩
  · exact ⟨toInt_across height x, trivial⟩
  · exact ⟨toInt_across width x, toInt_across height y⟩
  · exact ⟨trivial, toInt_across width y⟩

theorem Inside.turned (inside : p.Inside) (turns : Nat) :
    0 ≤ (p.turned turns).x ∧ (p.turned turns).x ≤ (p.rotate turns).frame.width ∧
      0 ≤ (p.turned turns).y ∧ (p.turned turns).y ≤ (p.rotate turns).frame.height := by
  obtain ⟨left, right, top, bottom⟩ := inside
  obtain h | h | h | h := mod_four_cases turns <;>
    simp only [Position.turned, rotate, frame, h] <;> omega

end Position

/-- Where a touch or a scroll points to. -/
def ControlMessage.position? : ControlMessage → Option Position
  | touch t => some t.position
  | scroll s => some s.position
  | _ => none

theorem ControlMessage.narrow_of_decode {b rest : Bytes} {m : ControlMessage} {p : Position}
    (decoded : decode b = .message m rest) (pointed : m.position? = some p) : p.Narrow := by
  have front := front_decode b
  rw [decoded] at front
  have narrow (s : Spot) : s.position.Narrow := by
    simp [Position.Narrow, Spot.position, s.width.toNat_lt, s.height.toNat_lt]
  cases front with
  | message f rest means =>
    cases f with
    | touch action pointerId spot => cases means; cases pointed; exact narrow spot
    | scroll spot => cases means; cases pointed; exact narrow spot
    | typeText content fits | fillClipboard sequence paste content fits =>
      cases text : Frame.textOf content <;> simp [Frame.message, text, Except.map] at means
      subst means
      cases pointed
    | fetchClipboard code =>
      simp only [Frame.message] at means
      split at means <;> cases means
      cases pointed
    | _ => cases means; cases pointed

/-- A captured area whose edges lie on a screen. -/
structure Rect.OnScreen (r : Rect) : Prop where
  left : 0 ≤ r.left
  right : r.right ≤ 2147483647
  top : 0 ≤ r.top
  bottom : r.bottom ≤ 2147483647
  wide : r.left ≤ r.right
  tall : r.top ≤ r.bottom

theorem Rect.left_add_width (r : Rect) : r.left + r.width = r.right := by
  unfold width
  omega

theorem Rect.top_add_height (r : Rect) : r.top + r.height = r.bottom := by
  unfold height
  omega

/-- With its right and bottom edges. -/
def Rect.Holds (r : Rect) (point : Point) : Prop :=
  r.left ≤ point.x ∧ point.x ≤ r.right ∧ r.top ≤ point.y ∧ point.y ≤ r.bottom

namespace ScreenLayout

theorem onScreen_contentOf {display : Size} (screen : display.larger ≤ 2147483647) (rotation : Nat)
    (crop : Option Rect) : (contentOf rotation display crop).OnScreen := by
  unfold Size.larger at screen
  have right : signed32 display.width = display.width := signed32_eq (by omega) (by omega)
  have bottom : signed32 display.height = display.height := signed32_eq (by omega) (by omega)
  have whole : display.toRect = ⟨0, 0, display.width, display.height⟩ := by
    rw [Size.toRect, right, bottom]
  cases crop with
  | none =>
    rw [contentOf, whole]
    exact ⟨Int.le_refl _, by dsimp only; omega, Int.le_refl _, by dsimp only; omega,
      Int.natCast_nonneg _, Int.natCast_nonneg _⟩
  | some crop =>
    simp only [contentOf]
    cases common : display.toRect.intersect? _ with
    | none => exact ⟨by decide, by decide, by decide, by decide, by decide, by decide⟩
    | some content =>
      obtain ⟨left, top, right, bottom⟩ := Rect.intersect?_within common
      obtain ⟨wide, tall⟩ := Rect.intersect?_nonempty common
      simp only [whole] at left top right bottom
      change content.OnScreen
      exact ⟨left, by omega, top, by omega, by omega, by omega⟩

theorem onScreen_turnedTo {s : ScreenLayout} (h : s.contentRect.OnScreen) (rotation : Nat) :
    (s.turnedTo rotation).contentRect.OnScreen := by
  unfold turnedTo
  dsimp only
  split
  · exact h
  · exact ⟨h.top, h.bottom, h.left, h.right, h.tall, h.wide⟩

end ScreenLayout

/-- How one coordinate is mapped if numbers have no bound, with all that comes up on the way. -/
structure Mapping where
  turned : Int
  /-- Times the side of the captured area. -/
  widened : Int
  /-- In the captured area. -/
  scaled : Int
  /-- On the screen. -/
  placed : Int

namespace Mapping

def along (x extent side edge : Int) : Mapping :=
  let scaled := (x * extent).tdiv side
  { turned := x, widened := x * extent, scaled, placed := edge + scaled }

/-- Every number fits the word that holds it: nothing overflows, and no cast changes it. -/
structure Fits (m : Mapping) : Prop where
  turned : InWord m.turned
  widened : InLong m.widened
  scaled : InWord m.scaled
  placed : InWord m.placed

/-- A coordinate within its side comes to lie within the captured area. -/
theorem fits_along {x extent side edge : Int} (some : 0 < side) (low : 0 ≤ x) (high : x ≤ side)
    (small : side < 2147483648) (start : 0 ≤ edge) (wide : 0 ≤ extent)
    (bound : edge + extent ≤ 2147483647) :
    (along x extent side edge).Fits ∧ edge ≤ (along x extent side edge).placed ∧
      (along x extent side edge).placed ≤ edge + extent := by
  have product : 0 ≤ x * extent := Int.mul_nonneg low wide
  have share : (x * extent).tdiv side ≤ extent := by
    rw [Int.tdiv_eq_ediv_of_nonneg product]
    apply Int.ediv_le_of_le_mul some
    calc x * extent ≤ side * extent := Int.mul_le_mul_of_nonneg_right high wide
      _ = extent * side := Int.mul_comm ..
  have positive : 0 ≤ (x * extent).tdiv side := Int.tdiv_nonneg product (by omega)
  have turned : InWord x := ⟨by omega, by omega⟩
  have area : InWord extent := ⟨by omega, by omega⟩
  have scaled : InWord ((x * extent).tdiv side) := ⟨by omega, by omega⟩
  have placed : InWord (edge + (x * extent).tdiv side) := ⟨by omega, by omega⟩
  exact ⟨⟨turned, turned.mul area, scaled, placed⟩, Int.le_add_of_nonneg_right positive,
    Int.add_le_add_left share edge⟩

end Mapping

namespace DeviceGeometry

def across (g : DeviceGeometry) (p : Position) : Mapping :=
  .along (p.turned g.layout.inverseVideoRotation).x g.layout.contentRect.width
    g.layout.unlockedVideoSize.width g.layout.contentRect.left

def down (g : DeviceGeometry) (p : Position) : Mapping :=
  .along (p.turned g.layout.inverseVideoRotation).y g.layout.contentRect.height
    g.layout.unlockedVideoSize.height g.layout.contentRect.top

variable {g : DeviceGeometry} {p : Position} {point : Point}

/-- A position is mapped only if its picture, turned back, is the present one. -/
theorem frame_of_onScreen (h : g.onScreen? p = some point) :
    (p.rotate g.layout.inverseVideoRotation).frame = g.layout.unlockedVideoSize ∧
      0 < g.layout.unlockedVideoSize.width ∧ 0 < g.layout.unlockedVideoSize.height := by
  unfold onScreen? at h
  dsimp only at h
  split at h
  · cases h
  · rename_i usable
    simp only [Bool.or_eq_true, bne_iff_ne, decide_eq_true_eq, not_or, not_not] at usable
    exact ⟨usable.1.1, Nat.pos_of_ne_zero usable.1.2, Nat.pos_of_ne_zero usable.2⟩

theorem onScreen_placed (small : p.frame.larger < 2147483648) (x : (g.across p).Fits)
    (y : (g.down p).Fits) (h : g.onScreen? p = some point) :
    point = ⟨(g.across p).placed, (g.down p).placed⟩ := by
  obtain ⟨turnedX, turnedY⟩ := Position.rotate_exact small x.turned y.turned
  unfold onScreen? at h
  dsimp only at h
  split at h
  · cases h
  · cases h
    have scaledX : scaled (p.rotate g.layout.inverseVideoRotation).x.toInt
        g.layout.contentRect.width g.layout.unlockedVideoSize.width = (g.across p).scaled := by
      rw [scaled, turnedX]
      exact x.scaled.signed32
    have scaledY : scaled (p.rotate g.layout.inverseVideoRotation).y.toInt
        g.layout.contentRect.height g.layout.unlockedVideoSize.height = (g.down p).scaled := by
      rw [scaled, turnedY]
      exact y.scaled.signed32
    rw [scaledX, scaledY]
    exact congrArg₂ Point.mk x.placed.signed32 y.placed.signed32

theorem onScreen_exact (narrow : p.Narrow) (x : (g.across p).Fits) (y : (g.down p).Fits)
    (h : g.onScreen? p = some point) : point = ⟨(g.across p).placed, (g.down p).placed⟩ :=
  onScreen_placed narrow.larger_lt x y h

/-- Inside its picture nothing overflows, and the captured area is not left. -/
theorem fits_of_small (area : g.layout.contentRect.OnScreen) (small : p.frame.larger < 2147483648)
    (inside : p.Inside) (h : g.onScreen? p = some point) :
    (g.across p).Fits ∧ (g.down p).Fits ∧ g.layout.contentRect.Holds point := by
  obtain ⟨present, width, height⟩ := frame_of_onScreen h
  obtain ⟨left, right, top, bottom⟩ := inside.turned g.layout.inverseVideoRotation
  have sides := p.larger_rotate g.layout.inverseVideoRotation
  rw [present] at right bottom sides
  obtain ⟨smallWidth, smallHeight⟩ := Nat.max_lt.mp (sides ▸ small)
  obtain ⟨areaLeft, areaRight, areaTop, areaBottom, wide, tall⟩ := area
  have toRight := g.layout.contentRect.left_add_width
  have toBottom := g.layout.contentRect.top_add_height
  obtain ⟨across, fromLeft, untilRight⟩ := Mapping.fits_along (Int.natCast_pos.mpr width) left
    right (by omega) areaLeft (by unfold Rect.width; omega) (toRight ▸ areaRight)
  obtain ⟨down, fromTop, untilBottom⟩ := Mapping.fits_along (Int.natCast_pos.mpr height) top
    bottom (by omega) areaTop (by unfold Rect.height; omega) (toBottom ▸ areaBottom)
  rw [onScreen_placed small across down h]
  exact ⟨across, down, fromLeft, toRight ▸ untilRight, fromTop, toBottom ▸ untilBottom⟩

theorem fits_of_inside (area : g.layout.contentRect.OnScreen) (narrow : p.Narrow)
    (inside : p.Inside) (h : g.onScreen? p = some point) :
    (g.across p).Fits ∧ (g.down p).Fits ∧ g.layout.contentRect.Holds point :=
  fits_of_small area narrow.larger_lt inside h

theorem onScreen_area {rotation : Nat} {display : Size} (screen : display.larger ≤ 2147483647)
    (crop : Option Rect) (maxSize : Nat) (lock : OrientationLock) (turned : Nat) :
    ((start rotation display crop maxSize lock).turn turned).layout.contentRect.OnScreen :=
  ScreenLayout.onScreen_turnedTo (ScreenLayout.onScreen_contentOf screen _ crop) turned

end DeviceGeometry

/-- Where an event takes place, unless it is that of a key. -/
def InputEvent.point? : InputEvent → Option Point
  | key _ => none
  | motion e => some e.point
  | scroll e => some e.point

namespace Device

open GeometryChange

theorem events_inject (d : Device) (event : InputEvent) (mode : InjectionMode) :
    ∀ e ∈ (d.inject event mode).1.platform.events, e ∈ d.platform.events ∨ e = event := by
  intro e he
  unfold inject Platform.inject at he
  split at he
  · dsimp only at he
    split at he
    · exact .inl he
    · simpa [Platform.record] using he
  · exact .inl he

/-- An event at the place that a position is mapped to, if it is. -/
def injectAt (d : Device) (p : Position) (event : Point → InputEvent) : Device :=
  match d.geometry.onScreen? p with
  | none => d
  | some point => (d.inject (event point) .async).1

theorem events_injectAt {d : Device} {p : Position} {event : Point → InputEvent}
    (placed : ∀ point, (event point).point? = some point) :
    ∀ e ∈ (d.injectAt p event).platform.events, e ∈ d.platform.events ∨
      ∃ point, e.point? = some point ∧ d.geometry.onScreen? p = some point := by
  intro e he
  unfold injectAt at he
  split at he
  · exact .inl he
  · rename_i point mapped
    obtain old | rfl := events_inject _ _ _ _ he
    · exact .inl old
    · exact .inr ⟨point, placed point, mapped⟩

/-- What a touch or a scroll adds to the events of the platform takes place where it points to. -/
theorem events_handle {d : Device} {m : ControlMessage} {p : Position}
    (points : m.position? = some p) :
    ∀ e ∈ (d.handle m).1.platform.events, e ∈ d.platform.events ∨
      ∃ point, e.point? = some point ∧ d.geometry.onScreen? p = some point := by
  intro e he
  cases m with
  | touch t =>
    cases points
    simp only [handle] at he
    split at he
    · change e ∈ (d.injectAt t.position _).platform.events at he
      exact events_injectAt (fun _ => rfl) e he
    · exact .inl he
  | scroll s =>
    cases points
    simp only [handle] at he
    split at he
    · change e ∈ (d.injectAt s.position _).platform.events at he
      exact events_injectAt (fun _ => rfl) e he
    · exact .inl he
  | _ => cases points

/-- Whatever the options, and whatever became of the geometry: a touch or a scroll that lies in the
picture it names is injected where exact arithmetic puts it, in the captured area, and nothing
overflows on the way. -/
theorem pointed_of_changes {options : Options} {platform : Platform} {d now : Device}
    (created : (create options platform).2 = .ok d)
    (screen : platform.screenSize.larger ≤ 2147483647) (changes : List GeometryChange)
    (changed : now.geometry = (changes.foldl change d).geometry)
    {b rest : Bytes} {m : ControlMessage} (decoded : ControlMessage.decode b = .message m rest)
    {p : Position} (points : m.position? = some p) (inside : p.Inside) :
    ∀ e ∈ (now.handle m).1.platform.events, e ∈ now.platform.events ∨
      (now.geometry.across p).Fits ∧ (now.geometry.down p).Fits ∧
        ∃ point : Point, e.point? = some point ∧
          point = ⟨(now.geometry.across p).placed, (now.geometry.down p).placed⟩ ∧
          now.layout.contentRect.Holds point := by
  intro e he
  obtain old | ⟨point, place, mapped⟩ := events_handle points e he
  · exact .inl old
  · have start := geometry_create created
    rw [← DeviceGeometry.turn_start] at start
    have area : now.geometry.layout.contentRect.OnScreen := by
      rw [changed, geometry_foldl_change start changes]
      exact DeviceGeometry.onScreen_area screen _ _ _ _
    have narrow := ControlMessage.narrow_of_decode decoded points
    obtain ⟨across, down, holds⟩ := DeviceGeometry.fits_of_inside area narrow inside mapped
    exact .inr ⟨across, down, point, place,
      DeviceGeometry.onScreen_exact narrow across down mapped, holds⟩

/-- A scroll at a corner of a cropped picture that is upside down. -/
theorem pointed_of_changes_cropped :
    let b : Bytes := [3, 0, 0, 1, 0xd8, 0, 0, 0, 0, 1, 0xd8, 2, 0, 0, 1, 0xff, 0xff, 0, 0, 0, 0]
    let p : Position := ⟨472, 0, 472, 512⟩
    let m : ControlMessage := .scroll ⟨p, 1, -1, 0⟩
    ∃ d : Device,
      (create
        { socketDir := "", maxSize := 960, lock := .locked 1, crop := some ⟨0, 100, 1080, 1100⟩ }
        { naturalSize := ⟨1080, 1920⟩ }).2 = .ok d ∧
      ControlMessage.decode b = .message m [] ∧ p.Inside ∧
      let now := [.turn 2, .limit 512, .turn 3].foldl change d
      (now.handle m).1.platform.events = [.scroll ⟨⟨100, 1080⟩, 1, -1, 0⟩] ∧
      ∀ e ∈ (now.handle m).1.platform.events, e ∈ now.platform.events ∨
        (now.geometry.across p).Fits ∧ (now.geometry.down p).Fits ∧
          ∃ point : Point, e.point? = some point ∧
            point = ⟨(now.geometry.across p).placed, (now.geometry.down p).placed⟩ ∧
            now.layout.contentRect.Holds point := by
  intro b p m
  have decoded : ControlMessage.decode b = .message m [] := rfl
  have inside : p.Inside := ⟨by decide, by decide, by decide, by decide⟩
  refine ⟨_, rfl, decoded, inside, by decide, ?_⟩
  exact @pointed_of_changes
    { socketDir := "", maxSize := 960, lock := .locked 1, crop := some ⟨0, 100, 1080, 1100⟩ }
    { naturalSize := ⟨1080, 1920⟩ } _ _ rfl (by decide) [.turn 2, .limit 512, .turn 3] rfl
    b [] m decoded p rfl inside

/-- A touch far to the right of its picture is injected to the left of the screen. A touch far above
its picture is turned by a difference that overflows. -/
theorem pointed_beyond :
    (∃ (d : Device) (b : Bytes) (t : Touch) (e : MotionEvent),
      (create { socketDir := "", maxSize := 960 } { naturalSize := ⟨1080, 1920⟩ }).2 = .ok d ∧
      ControlMessage.decode b = .message (.touch t) [] ∧
      (d.geometry.across t.position).placed = 4263386652 ∧
      (d.handle (.touch t)).1.platform.events = [.motion e] ∧ e.point = ⟨-31580644, 0⟩) ∧
    ∃ (d : Device) (b : Bytes) (t : Touch),
      (create { socketDir := "", maxSize := 960, lock := .locked 1 }
        { naturalSize := ⟨1080, 1920⟩ }).2 = .ok d ∧
      ControlMessage.decode b = .message (.touch t) [] ∧
      (d.geometry.across t.position).turned = 2147484192 ∧
      (d.geometry.onScreen? t.position).isSome := by
  constructor
  · exact ⟨_, [2, 0, 0, 0, 0, 0, 0, 0, 0, 0, 0x7f, 0xff, 0xff, 0xff, 0, 0, 0, 0, 2, 0x20, 3, 0xc0,
      0xff, 0xff, 0, 0, 0, 0, 0, 0, 0, 0], _, _, rfl, rfl, by decide, rfl, by decide⟩
  · exact ⟨_, [2, 0, 0, 0, 0, 0, 0, 0, 0, 0, 0, 0, 0, 0, 0x80, 0, 0, 0, 3, 0xc0, 2, 0x20,
      0xff, 0xff, 0, 0, 0, 0, 0, 0, 0, 0], _, rfl, rfl, by decide, by decide⟩

end Device

end Screencast
