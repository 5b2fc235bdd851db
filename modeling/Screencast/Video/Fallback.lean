import Screencast.Geometry.Basic

/-!
The maximum sizes to try, one after the other, when an encoder rejects the size of the screen.
-/

namespace Screencast

def fallbackSizes : List Nat := [2560, 1920, 1600, 1280, 1024, 800]

/-- The first candidate below the size that was rejected. -/
def nextFallback? (rejected : Size) : Option Nat := fallbackSizes.find? (· < rejected.larger)

end Screencast
