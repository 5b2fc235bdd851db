import Screencast.Geometry.Basic

/-!
The size at which a picture is encoded: on the encoder's grid of 8 pixels, its larger side at most
a given maximum, its proportions kept up to the grid.
-/

namespace Screencast

/-- The largest multiple of 8 that is not larger. -/
def onGrid (n : Nat) : Nat := n / 8 * 8

/-- The smaller side once the larger one is brought down from `major` to `maxSize`, rounded to the
nearest point of the grid. -/
def scaledMinor (minor major maxSize : Nat) : Nat := onGrid (minor * maxSize / major + 4)

/-- A maximum of 0 means none. -/
def Size.forVideo (s : Size) (maxSize : Nat) : Size :=
  let w := onGrid s.width
  let h := onGrid s.height
  if maxSize = 0 then ⟨w, h⟩
  else if h > w then
    if h > maxSize then ⟨scaledMinor w h maxSize, maxSize⟩ else ⟨w, h⟩
  else
    if w > maxSize then ⟨maxSize, scaledMinor h w maxSize⟩ else ⟨w, h⟩

end Screencast
