import Screencast.Error

/-!
The tasks of a session end with an outcome, which is fatal or not; a barrier counts them and opens
when all have ended or one ended fatally.
-/

namespace Screencast

inductive Outcome where
  | ok
  | error (e : Error)
  | panicked
deriving DecidableEq, Repr, Inhabited

def Outcome.isFatal : Outcome → Bool
  | ok => false
  | error e => e.isFatal
  | panicked => true

def Outcome.ofResult : Except Error Unit → Outcome
  | .ok () => ok
  | .error e => error e

structure Barrier where
  running : Nat
  fatal : Bool := false
deriving DecidableEq, Repr, Inhabited

namespace Barrier

/-- One more task has ended. -/
def add (b : Barrier) (fatal : Bool) : Barrier :=
  ⟨b.running - 1, b.fatal || fatal⟩

/-- Whether a task ended fatally, once the barrier is open. -/
def wait? (b : Barrier) : Option Bool :=
  if b.running = 0 || b.fatal then some b.fatal else none

end Barrier

/-- A task as its owner sees it: it is started at most once, told to stop, and joined. -/
structure Worker where
  started : Bool := false
  stopping : Bool := false
  /-- What the listener was told. -/
  reports : List Bool := []
deriving DecidableEq, Repr, Inhabited

namespace Worker

def spawn (w : Worker) : Worker := { w with started := true }

def stop (w : Worker) : Worker := { w with stopping := true }

/-- The body has ended; its listener hears so. -/
def finish (w : Worker) (outcome : Outcome) : Worker :=
  { w with reports := w.reports ++ [outcome.isFatal] }

def join (w : Worker) : Worker := { w with started := false }

end Worker

end Screencast
