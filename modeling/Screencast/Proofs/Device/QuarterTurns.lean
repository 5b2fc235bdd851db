import Mathlib.Logic.Function.Iterate
import Screencast.Proofs.Device.Landing

/-!
Rotating a position is repeating one quarter turn (`rotate_eq_iterate`), and four of them change
nothing, although coordinates wrap. So rotations add up modulo four, and the two rotations between a
device and its locked orientation undo each other (`rotate_composed`).
-/

namespace Screencast

namespace Position

/-- One quarter turn clockwise. -/
def quarterTurn (p : Position) : Position := ⟨p.height.toInt32 - p.y, p.x, p.height, p.width⟩

/-- Each formula for some quarter turns is the one before it, turned once more. -/
theorem rotate_succ (p : Position) (turns : Nat) :
    p.rotate (turns + 1) = (p.rotate turns).quarterTurn := by
  -- counted from the other side twice, a coordinate is what it was, also if it wrapped in between
  have back (side at_ : Int32) : side - (side - at_) = at_ := by grind
  obtain h | h | h | h := mod_four_cases turns
  · have next : (turns + 1) % 4 = 1 := by omega
    simp only [rotate, h, next, quarterTurn]
  · have next : (turns + 1) % 4 = 2 := by omega
    simp only [rotate, h, next, quarterTurn]
  · have next : (turns + 1) % 4 = 3 := by omega
    simp only [rotate, h, next, quarterTurn, back]
  · have next : (turns + 1) % 4 = 0 := by omega
    simp only [rotate, h, next, quarterTurn, back]

theorem rotate_eq_iterate (p : Position) (turns : Nat) :
    p.rotate turns = quarterTurn^[turns] p := by
  induction turns with
  | zero => rfl
  | succ turns ih => rw [rotate_succ, ih, Function.iterate_succ_apply']

theorem rotate_rotate (p : Position) (a b : Nat) : (p.rotate a).rotate b = p.rotate (a + b) := by
  rw [rotate_eq_iterate, rotate_eq_iterate, rotate_eq_iterate, Nat.add_comm,
    Function.iterate_add_apply]

@[simp] theorem rotate_mod (p : Position) (turns : Nat) :
    p.rotate (turns % 4) = p.rotate turns := by
  simp only [rotate, Nat.mod_mod]

end Position

namespace ScreenLayout

/-- However often a layout is turned after it was computed, it stays proper. -/
theorem proper_of_turns (rotation : Nat) (display : Size) (crop : Option Rect) (maxSize : Nat)
    (lock : OrientationLock) (turns : List Nat) :
    (turns.foldl turnedTo (compute rotation display crop maxSize lock)).Proper := by
  refine List.foldlRecOn turns turnedTo (proper_compute ..) ?_
  exact fun s proper rotation _ => proper.turnedTo rotation

theorem Proper.rotate_back {s : ScreenLayout} (h : s.Proper) (p : Position) :
    (p.rotate s.inverseVideoRotation).rotate s.videoRotation = p := by
  have whole : (s.inverseVideoRotation + s.videoRotation) % 4 = 0 := by
    rw [Nat.add_comm]
    exact h.turns_cancel
  rw [Position.rotate_rotate, ← Position.rotate_mod, whole]
  rfl

end ScreenLayout

theorem Position.rotate_composed (p : Position) :
    p.rotate 0 = p ∧
    (∀ turns, p.rotate turns = quarterTurn^[turns] p) ∧
    (∀ a b, (p.rotate a).rotate b = p.rotate ((a % 4 + b % 4) % 4)) ∧
    ∀ rotation display crop maxSize lock (turns : List Nat),
      let s := turns.foldl ScreenLayout.turnedTo
        (ScreenLayout.compute rotation display crop maxSize lock)
      (p.rotate s.inverseVideoRotation).rotate s.videoRotation = p := by
  refine ⟨rfl, p.rotate_eq_iterate, fun a b => ?_, ?_⟩
  · rw [rotate_rotate, ← Nat.add_mod, rotate_mod]
  · intro rotation display crop maxSize lock turns
    exact (ScreenLayout.proper_of_turns rotation display crop maxSize lock turns).rotate_back p

end Screencast
