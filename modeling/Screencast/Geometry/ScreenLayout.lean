import Screencast.Geometry.VideoSize

/-!
What part of the screen is captured and how large the video is, at one rotation of the device.
Rotations are counted in quarter turns from the natural orientation.
-/

namespace Screencast

inductive OrientationLock where
  /-- The video turns with the device. -/
  | unlocked
  /-- Locked to the rotation at the start of the session. -/
  | initial
  | locked (rotation : Nat)
deriving DecidableEq, Repr, Inhabited

structure ScreenLayout where
  /-- The captured area in the current rotation. -/
  contentRect : Rect
  /-- The size of the video before the orientation lock. -/
  unlockedVideoSize : Size
  deviceRotation : Nat
  lockedOrientation : Option Nat
deriving DecidableEq, Repr, Inhabited

namespace ScreenLayout

/-- The captured part of a display: all of it, or the crop, which is given in the natural
orientation. Nothing is captured if the crop lies outside. -/
def contentOf (rotation : Nat) (display : Size) (crop : Option Rect) : Rect :=
  match crop with
  | none => display.toRect
  | some crop =>
    let crop := if rotation % 2 = 0 then crop else crop.transpose
    (display.toRect.intersect? crop).getD Rect.zero

/-- The geometry of a display that has the size `display` at this rotation. -/
def compute (rotation : Nat) (display : Size) (crop : Option Rect) (maxSize : Nat)
    (lock : OrientationLock) : ScreenLayout :=
  let rotation := rotation % 4
  let content := contentOf rotation display crop
  { contentRect := content
    unlockedVideoSize := content.size.forVideo maxSize
    deviceRotation := rotation
    lockedOrientation := match lock with
      | .unlocked => none
      | .initial => some rotation
      | .locked r => some (r % 4) }

/-- The turn from the locked orientation to that of the device. -/
def videoRotation (s : ScreenLayout) : Nat :=
  match s.lockedOrientation with
  | none => 0
  | some locked => (s.deviceRotation + 4 - locked) % 4

/-- The turn from the orientation of the device to the locked one. -/
def inverseVideoRotation (s : ScreenLayout) : Nat :=
  match s.lockedOrientation with
  | none => 0
  | some locked => (locked + 4 - s.deviceRotation) % 4

/-- The size of the encoded pictures. -/
def videoSize (s : ScreenLayout) : Size :=
  if s.videoRotation % 2 = 0 then s.unlockedVideoSize else s.unlockedVideoSize.transpose

/-- The same geometry seen from another rotation. -/
def turnedTo (s : ScreenLayout) (rotation : Nat) : ScreenLayout :=
  let rotation := rotation % 4
  if (s.deviceRotation + rotation) % 2 = 0 then { s with deviceRotation := rotation }
  else
    { s with
      contentRect := s.contentRect.transpose
      unlockedVideoSize := s.unlockedVideoSize.transpose
      deviceRotation := rotation }

end ScreenLayout

end Screencast
