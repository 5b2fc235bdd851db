import Screencast.Proofs.Device.Landing

/-!
What the orientation lock does to the picture while the device turns. A locked picture keeps its
size, since the device and the turn to the lock change their parity together (`Held`); without a
lock the picture is transposed whenever the device is (`Follows`).
-/

namespace Screencast

namespace ScreenLayout

/-- The picture is the one that was encoded at `first`, and the size before the lock is transposed
as often as the turn to the lock demands it. -/
structure Held (first now : ScreenLayout) : Prop where
  size : now.videoSize = first.videoSize
  orientation : now.lockedOrientation = first.lockedOrientation
  cancel : (now.videoRotation + now.inverseVideoRotation) % 4 = 0
  unlocked : now.unlockedVideoSize =
    if now.videoRotation % 2 = 1 then now.videoSize.transpose else now.videoSize

/-- The picture is the one that was encoded at `first`, seen from the present rotation. -/
structure Follows (first now : ScreenLayout) : Prop where
  upright : now.videoRotation = 0 ∧ now.inverseVideoRotation = 0
  size : now.videoSize =
    if now.deviceRotation % 2 = first.deviceRotation % 2 then first.videoSize
    else first.videoSize.transpose

variable {first s : ScreenLayout}

theorem unlockedVideoSize_turnedTo (s : ScreenLayout) (rotation : Nat) :
    (s.turnedTo rotation).unlockedVideoSize =
      if (s.deviceRotation + rotation % 4) % 2 = 0 then s.unlockedVideoSize
      else s.unlockedVideoSize.transpose := by
  unfold turnedTo
  dsimp only
  split
  · rfl
  · rfl

/-! ### With a lock -/

/-- The turn to the lock is odd exactly when the device is an odd number of turns from it. -/
theorem Proper.videoRotation_parity (h : s.Proper) {locked : Nat}
    (lock : s.lockedOrientation = some locked) :
    s.videoRotation % 2 = (s.deviceRotation + locked) % 2 := by
  have bound := h.locked locked lock
  unfold videoRotation
  rw [lock]
  dsimp only
  omega

theorem unlocked_of_videoSize (s : ScreenLayout) :
    s.unlockedVideoSize =
      if s.videoRotation % 2 = 1 then s.videoSize.transpose else s.videoSize := by
  unfold videoSize
  rcases Nat.mod_two_eq_zero_or_one s.videoRotation with even | odd
  · simp only [even, Nat.zero_ne_one, ↓reduceIte]
  · simp only [odd, Nat.one_ne_zero, ↓reduceIte, Size.transpose_transpose]

/-- A turn that transposes what is captured also makes the turn to the lock odd, or even again. -/
theorem Proper.videoSize_turnedTo (h : s.Proper) {locked : Nat}
    (lock : s.lockedOrientation = some locked) (rotation : Nat) :
    (s.turnedTo rotation).videoSize = s.videoSize := by
  have before := h.videoRotation_parity lock
  have after := (h.turnedTo rotation).videoRotation_parity
    ((lockedOrientation_turnedTo s rotation).trans lock)
  rw [deviceRotation_turnedTo] at after
  unfold videoSize
  rw [unlockedVideoSize_turnedTo]
  by_cases same : (s.deviceRotation + rotation % 4) % 2 = 0
  · have parity : (s.turnedTo rotation).videoRotation % 2 = s.videoRotation % 2 := by omega
    rw [if_pos same, parity]
  · rw [if_neg same]
    by_cases even : s.videoRotation % 2 = 0
    · have odd : (s.turnedTo rotation).videoRotation % 2 ≠ 0 := by omega
      rw [if_neg odd, if_pos even, Size.transpose_transpose]
    · have back : (s.turnedTo rotation).videoRotation % 2 = 0 := by omega
      rw [if_pos back, if_neg even]

theorem Proper.held (h : s.Proper) : s.Held s where
  size := rfl
  orientation := rfl
  cancel := h.turns_cancel
  unlocked := unlocked_of_videoSize s

theorem Held.turnedTo (h : first.Held s) (proper : s.Proper) {locked : Nat}
    (lock : first.lockedOrientation = some locked) (rotation : Nat) :
    first.Held (s.turnedTo rotation) where
  size := by
    rw [proper.videoSize_turnedTo (h.orientation.trans lock) rotation]
    exact h.size
  orientation := by
    rw [lockedOrientation_turnedTo]
    exact h.orientation
  cancel := (proper.turnedTo rotation).turns_cancel
  unlocked := unlocked_of_videoSize _

/-! ### Without a lock -/

theorem videoSize_of_unlocked (free : s.lockedOrientation = none) :
    (s.videoRotation = 0 ∧ s.inverseVideoRotation = 0) ∧ s.videoSize = s.unlockedVideoSize := by
  have upright : s.videoRotation = 0 := by
    rw [videoRotation, free]
  have inverse : s.inverseVideoRotation = 0 := by
    rw [inverseVideoRotation, free]
  refine ⟨⟨upright, inverse⟩, ?_⟩
  rw [videoSize, upright, if_pos (Nat.zero_mod 2)]

theorem follows_self (free : s.lockedOrientation = none) : s.Follows s where
  upright := (videoSize_of_unlocked free).1
  size := by rw [if_pos rfl]

theorem Follows.turnedTo (h : first.Follows s) (free : s.lockedOrientation = none)
    (rotation : Nat) : first.Follows (s.turnedTo rotation) := by
  have still : (s.turnedTo rotation).lockedOrientation = none := by
    rw [lockedOrientation_turnedTo]
    exact free
  obtain ⟨upright, after⟩ := videoSize_of_unlocked still
  obtain ⟨-, before⟩ := videoSize_of_unlocked free
  refine ⟨upright, ?_⟩
  have size := h.size
  rw [before] at size
  rw [after, unlockedVideoSize_turnedTo, deviceRotation_turnedTo, size]
  by_cases same : (s.deviceRotation + rotation % 4) % 2 = 0
  · have parity : rotation % 4 % 2 = s.deviceRotation % 2 := by omega
    rw [if_pos same, parity]
  · rw [if_neg same]
    by_cases back : s.deviceRotation % 2 = first.deviceRotation % 2
    · have away : rotation % 4 % 2 ≠ first.deviceRotation % 2 := by omega
      rw [if_pos back, if_neg away]
    · have home : rotation % 4 % 2 = first.deviceRotation % 2 := by omega
      rw [if_neg back, if_pos home, Size.transpose_transpose]

end ScreenLayout

namespace Device

variable {d : Device} {first : ScreenLayout}

theorem layout_noteRotation (d : Device) (rotation : Nat) :
    (d.noteRotation rotation).layout = d.layout.turnedTo rotation := rfl

theorem held_of_turns (held : first.Held d.layout) (proper : d.layout.Proper) {locked : Nat}
    (lock : first.lockedOrientation = some locked) (turns : List Nat) :
    first.Held (turns.foldl noteRotation d).layout := by
  induction turns generalizing d with
  | nil => exact held
  | cons rotation turns ih =>
    apply ih
    · exact held.turnedTo proper lock rotation
    · exact proper.turnedTo rotation

theorem follows_of_turns (follows : first.Follows d.layout)
    (free : d.layout.lockedOrientation = none) (turns : List Nat) :
    first.Follows (turns.foldl noteRotation d).layout := by
  induction turns generalizing d with
  | nil => exact follows
  | cons rotation turns ih =>
    apply ih
    · exact follows.turnedTo free rotation
    · rw [layout_noteRotation, ScreenLayout.lockedOrientation_turnedTo]
      exact free

theorem deviceRotation_of_turns (d : Device) (turns : List Nat) :
    (turns.foldl noteRotation d).layout.deviceRotation =
      (turns.getLast?.map (· % 4)).getD d.layout.deviceRotation := by
  induction turns generalizing d with
  | nil => rfl
  | cons rotation turns ih =>
    rw [List.foldl_cons, ih, layout_noteRotation, ScreenLayout.deviceRotation_turnedTo]
    cases turns with
    | nil => rfl
    | cons next turns =>
      simp only [List.getLast?_cons, Option.map_some, Option.getD_some]

/-- The lock of the options, with the initial rotation in the place of a lock to it. -/
theorem lockedOrientation_create {options : Options} {platform : Platform}
    (created : (create options platform).2 = .ok d) :
    d.layout.lockedOrientation =
      match options.lock with
      | .unlocked => none
      | .initial => some (platform.rotation % 4)
      | .locked rotation => some (rotation % 4) := by
  rw [layout, geometry_create created]
  cases lock : options.lock with
  | unlocked => rfl
  | initial =>
    change some (platform.rotation % 4 % 4) = _
    rw [Nat.mod_mod]
  | locked rotation => rfl

theorem proper_create {options : Options} {platform : Platform}
    (created : (create options platform).2 = .ok d) : d.layout.Proper :=
  proper_of_changes created [] rfl

/-- However often and to whatever rotations a device turns: with a lock the picture stays the one at
the start of the session, and without one it is transposed exactly when the device is. -/
theorem oriented_of_turns {options : Options} {platform : Platform}
    (created : (create options platform).2 = .ok d) (turns : List Nat) :
    let now := (turns.foldl noteRotation d).layout
    (options.lock ≠ .unlocked → now.lockedOrientation.isSome ∧ d.layout.Held now) ∧
      (options.lock = .unlocked → d.layout.Follows now) ∧
      now.deviceRotation = (turns.getLast?.getD platform.rotation) % 4 := by
  intro now
  have proper := proper_create created
  have orientation := lockedOrientation_create created
  refine ⟨fun lock => ?_, fun unlocked => ?_, ?_⟩
  · obtain ⟨locked, found⟩ : ∃ locked, d.layout.lockedOrientation = some locked := by
      cases wanted : options.lock with
      | unlocked => exact absurd wanted lock
      | initial | locked => exact ⟨_, by rw [orientation, wanted]⟩
    have held := held_of_turns proper.held proper found turns
    refine ⟨?_, held⟩
    rw [held.orientation, found]
    rfl
  · have free : d.layout.lockedOrientation = none := by rw [orientation, unlocked]
    exact follows_of_turns (ScreenLayout.follows_self free) free turns
  · have first : d.layout.deviceRotation = platform.rotation % 4 := by
      rw [layout, geometry_create created]
      rfl
    change (turns.foldl noteRotation d).layout.deviceRotation = _
    rw [deviceRotation_of_turns, first]
    cases turns.getLast? <;> rfl

/-- A cropped screen locked to the rotation it starts with, and one that turns with its device. -/
theorem oriented_of_turns_sideways :
    (∃ d : Device,
      (create { socketDir := "", lock := .initial, crop := some ⟨0, 100, 1080, 1100⟩ }
        { naturalSize := ⟨1080, 1920⟩, rotation := 1 }).2 = .ok d ∧
      d.layout.Held ([2, 7, 0].foldl noteRotation d).layout ∧
      ([2, 7, 0].foldl noteRotation d).layout = ⟨⟨0, 100, 1080, 1100⟩, ⟨1080, 1000⟩, 0, some 1⟩ ∧
      ([2, 7, 0].foldl noteRotation d).layout.videoSize = ⟨1000, 1080⟩) ∧
    ∃ d : Device,
      (create { socketDir := "" } { naturalSize := ⟨1080, 1920⟩, rotation := 1 }).2 = .ok d ∧
      d.layout.Follows ([2, 7, 0].foldl noteRotation d).layout ∧
      d.layout.videoSize = ⟨1920, 1080⟩ ∧
      ([2, 7, 0].foldl noteRotation d).layout.videoSize = ⟨1080, 1920⟩ := by
  refine ⟨⟨_, rfl, ?_, by decide, by decide⟩, _, rfl, ?_, by decide, by decide⟩
  · exact ((@oriented_of_turns _
      { socketDir := "", lock := .initial, crop := some ⟨0, 100, 1080, 1100⟩ }
      { naturalSize := ⟨1080, 1920⟩, rotation := 1 } rfl [2, 7, 0]).1 (by decide)).2
  · exact (@oriented_of_turns _ { socketDir := "" }
      { naturalSize := ⟨1080, 1920⟩, rotation := 1 } rfl [2, 7, 0]).2.1 rfl

end Device

end Screencast
