import Screencast.Geometry.Basic

/-!
A point of the picture that the desktop shows, with the size of that picture, as it travels in
32-bit words. Its rotation wraps like the words do.
-/

namespace Screencast

structure Position where
  x : Int32
  y : Int32
  width : UInt32
  height : UInt32
deriving DecidableEq, Repr, Inhabited

namespace Position

def frame (p : Position) : Size := ⟨p.width.toNat, p.height.toNat⟩

/-- Clockwise, in quarter turns. -/
def rotate (p : Position) (turns : Nat) : Position :=
  match turns % 4 with
  | 1 => ⟨p.height.toInt32 - p.y, p.x, p.height, p.width⟩
  | 2 => ⟨p.width.toInt32 - p.x, p.height.toInt32 - p.y, p.width, p.height⟩
  | 3 => ⟨p.y, p.width.toInt32 - p.x, p.height, p.width⟩
  | _ => p

end Position

end Screencast
