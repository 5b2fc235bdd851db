import Screencast.Device.Basic
import Screencast.Proofs.Geometry.Turning

/-!
The layout of a device over a session. Turns only transpose what was computed at the start, and
another maximum is computed at the initial rotation and turned from there. Whatever comes of it is
the layout computed anew at the rotation of the moment (`layout_of_changes`).
-/

namespace Screencast

namespace DeviceGeometry

theorem resolveLock_ne_initial (rotation : Nat) (lock : OrientationLock) :
    resolveLock rotation lock ≠ .initial := by
  cases lock <;> simp [resolveLock]

theorem compute_mod (rotation : Nat) (display : Size) (crop : Option Rect) (maxSize : Nat)
    (lock : OrientationLock) :
    ScreenLayout.compute (rotation % 4) display crop maxSize lock =
      .compute rotation display crop maxSize lock := by
  simp only [ScreenLayout.compute, Nat.mod_mod]

variable (rotation : Nat) (display : Size) (crop : Option Rect) (maxSize : Nat)
  (lock : OrientationLock)

@[simp] theorem turn_turn (g : DeviceGeometry) (a b : Nat) : (g.turn a).turn b = g.turn b := by
  simp only [turn, ScreenLayout.turnedTo_turnedTo]

theorem turn_start :
    (start rotation display crop maxSize lock).turn rotation =
      start rotation display crop maxSize lock := by
  have same : (rotation % 4 + rotation % 4) % 2 = 0 := by omega
  simp only [turn, start, ScreenLayout.turnedTo, ScreenLayout.compute, same, ↓reduceIte]

/-- A new maximum takes the place of the one at the start. -/
theorem limitSize_start (turned limit : Nat) :
    ((start rotation display crop maxSize lock).turn turned).limitSize limit =
      (start rotation display crop limit lock).turn turned := by
  simp only [limitSize, turn, start, compute_mod, ScreenLayout.deviceRotation_turnedTo,
    ScreenLayout.turnedTo_mod]

theorem layout_start (grid : 8 ∣ maxSize) (turned : Nat) :
    ((start rotation display crop maxSize lock).turn turned).layout =
      .compute turned (display.seenAt rotation turned) crop maxSize (resolveLock rotation lock) :=
  ScreenLayout.turnedTo_compute grid (resolveLock_ne_initial rotation lock) _ _ _ _

end DeviceGeometry

namespace DeviceGeometry

/-- The maximum was always a multiple of 8, and the larger side of the video is `side` now. -/
def HasSide (g : DeviceGeometry) (side : Nat) : Prop :=
  ∃ (rotation : Nat) (display : Size) (crop : Option Rect) (maxSize : Nat)
    (lock : OrientationLock) (turned : Nat),
    8 ∣ maxSize ∧ g = (start rotation display crop maxSize lock).turn turned ∧
      side = ((ScreenLayout.contentOf (rotation % 4) display crop).size.forVideo maxSize).larger

variable {g : DeviceGeometry} {side : Nat}

theorem HasSide.larger_videoSize (h : g.HasSide side) : g.layout.videoSize.larger = side := by
  obtain ⟨rotation, display, crop, maxSize, lock, turned, -, rfl, rfl⟩ := h
  rw [ScreenLayout.larger_videoSize]
  exact ScreenLayout.larger_turnedTo _ turned

theorem HasSide.turn (h : g.HasSide side) (rotation : Nat) : (g.turn rotation).HasSide side := by
  obtain ⟨first, display, crop, maxSize, lock, turned, grid, rfl, rfl⟩ := h
  exact ⟨first, display, crop, maxSize, lock, rotation, grid, turn_turn _ _ _, rfl⟩

/-- A maximum that is on the grid and below the larger side becomes the larger side. -/
theorem HasSide.limitSize (h : g.HasSide side) {limit : Nat} (grid : 8 ∣ limit) (some : 0 < limit)
    (smaller : limit < side) : (g.limitSize limit).HasSide limit := by
  obtain ⟨rotation, display, crop, maxSize, lock, turned, gridBefore, rfl, rfl⟩ := h
  refine ⟨rotation, display, crop, limit, lock, turned, grid, limitSize_start .., ?_⟩
  exact (Size.larger_forVideo_of_lt gridBefore grid some smaller).symm

theorem HasSide.lt (h : g.HasSide side) : side < 2147483648 := by
  obtain ⟨rotation, display, crop, maxSize, lock, turned, grid, rfl, rfl⟩ := h
  exact Nat.lt_of_le_of_lt (Size.larger_forVideo_le _ _)
    (ScreenLayout.larger_contentOf_lt (rotation % 4) display crop)

end DeviceGeometry

/-- What changes the layout of a device in the course of a session. -/
inductive GeometryChange where
  | turn (rotation : Nat)
  | limit (maxSize : Nat)
deriving DecidableEq, Repr

namespace GeometryChange

/-- The last rotation, or the one before the changes if there is none among them. -/
def rotationAfter (rotation : Nat) : List GeometryChange → Nat
  | [] => rotation
  | turn r :: changes => rotationAfter r changes
  | limit _ :: changes => rotationAfter rotation changes

/-- The last maximum, or the one before the changes if there is none among them. -/
def maxSizeAfter (maxSize : Nat) : List GeometryChange → Nat
  | [] => maxSize
  | turn _ :: changes => maxSizeAfter maxSize changes
  | limit m :: changes => maxSizeAfter m changes

theorem dvd_maxSizeAfter {changes : List GeometryChange} {n maxSize : Nat} (start : n ∣ maxSize)
    (limits : ∀ m, limit m ∈ changes → n ∣ m) : n ∣ maxSizeAfter maxSize changes := by
  induction changes generalizing maxSize with
  | nil => exact start
  | cons change changes ih =>
    cases change with
    | turn r => exact ih start fun m hm => limits m (.tail _ hm)
    | limit m => exact ih (limits m (.head _)) fun m hm => limits m (.tail _ hm)

end GeometryChange

namespace Device

open GeometryChange

def change (d : Device) : GeometryChange → Device
  | .turn rotation => d.noteRotation rotation
  | .limit maxSize => d.limitSize maxSize

/-- After any changes the geometry is that of a start with the last maximum, turned to the last
rotation. -/
theorem geometry_foldl_change {d : Device} {rotation maxSize turned : Nat} {display : Size}
    {crop : Option Rect} {lock : OrientationLock}
    (h : d.geometry = (DeviceGeometry.start rotation display crop maxSize lock).turn turned)
    (changes : List GeometryChange) :
    (changes.foldl change d).geometry =
      (DeviceGeometry.start rotation display crop (maxSizeAfter maxSize changes) lock).turn
        (rotationAfter turned changes) := by
  induction changes generalizing d maxSize turned with
  | nil => exact h
  | cons first changes ih =>
    cases first with
    | turn r =>
      apply ih
      change d.geometry.turn r = _
      rw [h, DeviceGeometry.turn_turn]
    | limit m =>
      apply ih
      change d.geometry.limitSize m = _
      rw [h, DeviceGeometry.limitSize_start]

theorem geometry_create {options : Options} {platform : Platform} {d : Device}
    (created : (create options platform).2 = .ok d) :
    d.geometry = .start platform.rotation platform.screenSize options.crop options.maxSize
      options.lock := by
  unfold create Platform.describeDisplay at created
  split at created
  · cases created
  · rename_i info known
    split at known
    · cases known
    · cases known
      split at created <;> cases created
      rfl

theorem hasSide_create {options : Options} {platform : Platform} {d : Device}
    (created : (create options platform).2 = .ok d) (grid : 8 ∣ options.maxSize) :
    d.geometry.HasSide d.layout.videoSize.larger := by
  have start := geometry_create created
  rw [← DeviceGeometry.turn_start] at start
  have has : d.geometry.HasSide _ := ⟨_, _, _, _, _, _, grid, start, rfl⟩
  rwa [← has.larger_videoSize] at has

/-- The layout never depends on how a rotation and a maximum were reached. The display may have any
size and the crop any edges. -/
theorem layout_of_changes {options : Options} {platform : Platform} {d : Device}
    (created : (create options platform).2 = .ok d) (grid : 8 ∣ options.maxSize)
    (changes : List GeometryChange) (limits : ∀ m, limit m ∈ changes → 8 ∣ m) :
    (changes.foldl change d).layout =
      .compute (rotationAfter platform.rotation changes)
        (platform.screenSize.seenAt platform.rotation (rotationAfter platform.rotation changes))
        options.crop (maxSizeAfter options.maxSize changes)
        (DeviceGeometry.resolveLock platform.rotation options.lock) := by
  have start := geometry_create created
  rw [← DeviceGeometry.turn_start] at start
  rw [layout, geometry_foldl_change start changes]
  exact DeviceGeometry.layout_start _ _ _ _ _ (dvd_maxSizeAfter grid limits) _

/-- A cropped screen that starts sideways, with its video locked there. -/
theorem layout_of_changes_cropped :
    ∃ d : Device,
      (create
        { socketDir := "", maxSize := 1024, lock := .initial, crop := some ⟨0, 100, 1080, 1100⟩ }
        { naturalSize := ⟨1080, 1920⟩, rotation := 1 }).2 = .ok d ∧ 8 ∣ 1024 ∧
      (∀ m, limit m ∈ [.turn 2, .limit 512, .turn 3, .limit 800, .turn 6] → 8 ∣ m) ∧
      ([.turn 2, .limit 512, .turn 3, .limit 800, .turn 6].foldl change d).layout =
        .compute 6 ⟨1080, 1920⟩ (some ⟨0, 100, 1080, 1100⟩) 800 (.locked 1) ∧
      ScreenLayout.compute 6 ⟨1080, 1920⟩ (some ⟨0, 100, 1080, 1100⟩) 800 (.locked 1) =
        ⟨⟨0, 100, 1080, 1100⟩, ⟨800, 744⟩, 2, some 1⟩ := by
  refine ⟨_, rfl, by decide, by simp, ?_, by decide⟩
  exact @layout_of_changes
    { socketDir := "", maxSize := 1024, lock := .initial, crop := some ⟨0, 100, 1080, 1100⟩ }
    { naturalSize := ⟨1080, 1920⟩, rotation := 1 } _ rfl (by decide) _ (by simp)

end Device

end Screencast
