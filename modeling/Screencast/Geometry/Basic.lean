/-!
Sizes, points and rectangles in pixels. Rectangles exclude their right and bottom edges.
-/

namespace Screencast

/-- The signed reading of a 32-bit word. -/
def signed32 (n : Int) : Int := n.bmod 4294967296

theorem signed32_eq {n : Int} (low : -2147483648 ≤ n) (high : n < 2147483648) :
    signed32 n = n := by
  unfold signed32
  exact Int.bmod_eq_of_le (by omega) (by omega)

structure Point where
  x : Int
  y : Int
deriving DecidableEq, Repr, Inhabited

structure Rect where
  left : Int
  top : Int
  right : Int
  bottom : Int
deriving DecidableEq, Repr, Inhabited

structure Size where
  width : Nat
  height : Nat
deriving DecidableEq, Repr, Inhabited

namespace Size

def transpose (s : Size) : Size := ⟨s.height, s.width⟩

def larger (s : Size) : Nat := max s.width s.height

/-- The rectangle of this size at the origin, its edges taken as signed 32-bit words. -/
def toRect (s : Size) : Rect := ⟨0, 0, signed32 s.width, signed32 s.height⟩

def text (s : Size) : String := s!"{s.width}x{s.height}"

@[simp] theorem transpose_transpose (s : Size) : s.transpose.transpose = s := rfl

@[simp] theorem larger_transpose (s : Size) : s.transpose.larger = s.larger :=
  Nat.max_comm s.height s.width

end Size

namespace Rect

def zero : Rect := ⟨0, 0, 0, 0⟩

def width (r : Rect) : Int := r.right - r.left

def height (r : Rect) : Int := r.bottom - r.top

def isEmpty (r : Rect) : Bool := r.width ≤ 0 || r.height ≤ 0

/-- Exchanges the axes. -/
def transpose (r : Rect) : Rect := ⟨r.top, r.left, r.bottom, r.right⟩

/-- The common part of two rectangles, unless there is none. -/
def intersect? (r s : Rect) : Option Rect :=
  let common : Rect :=
    ⟨max r.left s.left, max r.top s.top, min r.right s.right, min r.bottom s.bottom⟩
  if common.isEmpty then none else some common

def size (r : Rect) : Size := ⟨r.width.toNat, r.height.toNat⟩

/-- The notation of a crop: `width:height:x:y`. -/
def text (r : Rect) : String := s!"{r.width}:{r.height}:{r.left}:{r.top}"

@[simp] theorem transpose_transpose (r : Rect) : r.transpose.transpose = r := rfl

end Rect

end Screencast
