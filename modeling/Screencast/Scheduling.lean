/-!
Choice between several things that are ready, and running a task until it has to wait.
-/

namespace Screencast

/-- The first branch that is ready, beginning at the branch numbered `pick` and going round. -/
def firstReady {α : Type} (pick : Nat) (branches : List (Option α)) : Option α :=
  (branches.rotateLeft pick).findSome? id

/-- Repeats a step until it has nothing to do, or as often as `fuel` allows. -/
def settle {α : Type} (step : α → Option α) : Nat → α → α
  | 0, a => a
  | fuel + 1, a =>
    match step a with
    | none => a
    | some b => settle step fuel b

/-- Steps granted to a task between two events; no burst of events needs as many. -/
def patience : Nat := 0x100000000

/-- The outcome that a script holds for the next call; calls beyond its end succeed. -/
def nextOutcome {ε : Type} : List (Option ε) → Option ε × List (Option ε)
  | [] => (none, [])
  | e :: rest => (e, rest)

end Screencast
