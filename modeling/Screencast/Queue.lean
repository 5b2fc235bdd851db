/-!
Bounded queues with any number of producers and one consumer. A full queue makes producers wait;
closing it discards what is queued and refuses what comes later.
-/

namespace Screencast

structure Queue (α : Type) where
  capacity : Nat
  items : List α := []
  producers : Nat := 1
  /-- The consumer closed the queue or went away. -/
  isClosed : Bool := false
deriving DecidableEq, Repr, Inhabited

inductive Pushed where
  | accepted
  /-- The producer has to wait. -/
  | full
  | refused
deriving DecidableEq, Repr, Inhabited

inductive Taken (α : Type) where
  | item (a : α)
  /-- The consumer has to wait. -/
  | empty
  | ended
deriving DecidableEq, Repr, Inhabited

namespace Queue

variable {α : Type}

def push (q : Queue α) (a : α) : Queue α × Pushed :=
  if q.isClosed then (q, .refused)
  else if q.items.length < q.capacity then ({ q with items := q.items ++ [a] }, .accepted)
  else (q, .full)

def take (q : Queue α) : Queue α × Taken α :=
  match q.items with
  | a :: rest => ({ q with items := rest }, .item a)
  | [] => (q, if q.isClosed || q.producers = 0 then .ended else .empty)

/-- Also says how many items were discarded. -/
def close (q : Queue α) : Queue α × Nat :=
  ({ q with items := [], isClosed := true }, q.items.length)

/-- Producers come only from other producers. -/
def addProducer (q : Queue α) : Queue α :=
  { q with producers := if q.producers = 0 then 0 else q.producers + 1 }

def dropProducer (q : Queue α) : Queue α := { q with producers := q.producers - 1 }

end Queue

end Screencast
