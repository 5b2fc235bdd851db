import Screencast.Geometry.Position
import Screencast.Geometry.ScreenLayout

/-!
The geometry of a session over its whole run: what rotations and lowered sizes make of it, and where
a point of the picture lies on the screen.
-/

namespace Screencast

/-- Where the geometry started, and what came of it since. -/
structure DeviceGeometry where
  initialRotation : Nat
  /-- The size of the display at the initial rotation. -/
  deviceSize : Size
  crop : Option Rect
  lock : OrientationLock
  layout : ScreenLayout
deriving DecidableEq, Repr, Inhabited

namespace DeviceGeometry

/-- A lock to the initial rotation is resolved once, here. -/
def resolveLock (rotation : Nat) : OrientationLock → OrientationLock
  | .initial => .locked (rotation % 4)
  | lock => lock

def start (rotation : Nat) (size : Size) (crop : Option Rect) (maxSize : Nat)
    (lock : OrientationLock) : DeviceGeometry :=
  let lock := resolveLock rotation lock
  { initialRotation := rotation % 4
    deviceSize := size
    crop
    lock
    layout := ScreenLayout.compute rotation size crop maxSize lock }

def turn (g : DeviceGeometry) (rotation : Nat) : DeviceGeometry :=
  { g with layout := g.layout.turnedTo rotation }

/-- Another maximum, at the rotation of the moment. -/
def limitSize (g : DeviceGeometry) (maxSize : Nat) : DeviceGeometry :=
  let info := ScreenLayout.compute g.initialRotation g.deviceSize g.crop maxSize g.lock
  { g with layout := info.turnedTo g.layout.deviceRotation }

/-- One coordinate, scaled from a side of the picture to a side of the captured area. -/
def scaled (x extent side : Int) : Int := signed32 (Int.tdiv (x * extent) side)

/-- The point of the screen that a position of the picture means; none if the picture was not of
the present size, so that the position belongs to an earlier geometry. -/
def onScreen? (g : DeviceGeometry) (position : Position) : Option Point :=
  let info := g.layout
  let unlocked := info.unlockedVideoSize
  let p := position.rotate info.inverseVideoRotation
  if p.frame != unlocked || unlocked.width = 0 || unlocked.height = 0 then none
  else
    let content := info.contentRect
    some ⟨signed32 (content.left + scaled p.x.toInt content.width unlocked.width),
      signed32 (content.top + scaled p.y.toInt content.height unlocked.height)⟩

end DeviceGeometry

end Screencast
