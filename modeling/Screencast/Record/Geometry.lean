import Screencast.Geometry.Position
import Screencast.Geometry.ScreenLayout
import Screencast.Record.Reading

/-!
Records of geometry: a size is width and height, a rectangle its left, top, right and bottom edges.
-/

namespace Screencast

instance : Recorded Size := ⟨fun s => record [s.width, s.height]⟩

instance : Recorded Rect := ⟨fun r => record [r.left, r.top, r.right, r.bottom]⟩

instance : Recorded Point := ⟨fun p => record [p.x, p.y]⟩

instance : Recorded OrientationLock := ⟨fun
  | .unlocked => .text "unlocked"
  | .initial => .text "initial"
  | .locked r => .table [("locked", record r)]⟩

instance : Recorded ScreenLayout := ⟨fun s => .table
  [ ("content", record s.contentRect), ("unlocked", record s.unlockedVideoSize)
  , ("rotation", record s.deviceRotation), ("locked", record s.lockedOrientation)
  , ("video_rotation", record s.videoRotation)
  , ("reverse_rotation", record s.inverseVideoRotation), ("video", record s.videoSize) ]⟩

def Position.entries (p : Position) : List (String × Value) :=
  [ ("x", record p.x.toInt), ("y", record p.y.toInt)
  , ("w", record p.width.toNat), ("h", record p.height.toNat) ]

instance : Recorded Position := ⟨fun p => .table p.entries⟩

namespace Value

def size? (v : Value) : Option Size :=
  match v with
  | list [w, h] => do return ⟨← w.nat? 32, ← h.nat? 32⟩
  | _ => none

def rect? (v : Value) : Option Rect :=
  match v with
  | list [a, b, c, d] => do
    return ⟨← a.signed? 32, ← b.signed? 32, ← c.signed? 32, ← d.signed? 32⟩
  | _ => none

def position (v : Value) : Reading Position := do
  return ⟨Int32.ofInt (← v.signed 32 "x"), Int32.ofInt (← v.signed 32 "y"),
    UInt32.ofNat (← v.nat 32 "w"), UInt32.ofNat (← v.nat 32 "h")⟩

end Value

end Screencast
