import Screencast.Bytes
import Screencast.Error

/-!
The writing end of a socket, as its writer sees it: each write takes some of the bytes offered, or
has to wait, or fails. `Sink.write` goes on with short writes until all bytes are taken or it can
go no further.
-/

namespace Screencast

structure Sink where
  accepted : Bytes := []
  flushes : Nat := 0
  /-- The most bytes that one write takes, by the number of bytes accepted before it. -/
  quota : Nat → Nat := fun _ => 0xffffffffffffffff
  /-- Writes fail once this many bytes were accepted. -/
  failure : Option (Nat × IoError) := none
  /-- Writes wait once this many bytes were accepted. -/
  limit : Option Nat := none

/-- What one write does. -/
inductive Offer where
  | taken (n : Nat)
  | refused (e : IoError)
  | full
deriving DecidableEq, Repr

/-- How far a sequence of writes came. -/
inductive Written where
  | done
  | stalled (rest : Bytes)
  | failed (e : IoError)
deriving DecidableEq, Repr, Inhabited

namespace Sink

/-- One write of `n` bytes after `total` were accepted. -/
def offer (s : Sink) (total n : Nat) : Offer :=
  let n := min n (s.quota total)
  match s.failure with
  | some (bound, e) => if bound ≤ total then .refused e else limited (min n (bound - total))
  | none => limited n
where
  limited (n : Nat) : Offer :=
    match s.limit with
    | some bound => if bound ≤ total then .full else .taken (min n (bound - total))
    | none => .taken n

/-- The outcome of writing `n` bytes, and how many are accepted then. -/
inductive Outcome where
  | done
  | stalled
  | failed (e : IoError)
deriving DecidableEq, Repr

/-- Writes until `n` bytes are taken. A write that takes none fails with `zero`. -/
def advance (s : Sink) (zero : IoError) (total n : Nat) : Nat × Outcome :=
  if n = 0 then (total, .done)
  else
    match s.offer total n with
    | .refused e => (total, .failed e)
    | .full => (total, .stalled)
    | .taken 0 => (total, .failed zero)
    | .taken (k + 1) => s.advance zero (total + (k + 1)) (n - (k + 1))
termination_by n

/-- Writes all bytes and flushes, as far as that goes. -/
def writeOr (zero : IoError) (s : Sink) (bytes : Bytes) : Sink × Written :=
  let before := s.accepted.length
  let (after, outcome) := s.advance zero before bytes.length
  let s := { s with accepted := s.accepted ++ bytes.take (after - before) }
  match outcome with
  | .done => ({ s with flushes := s.flushes + 1 }, .done)
  | .stalled => (s, .stalled (bytes.drop (after - before)))
  | .failed e => (s, .failed e)

def write (s : Sink) (bytes : Bytes) : Sink × Written := s.writeOr ⟨.writeZero, none⟩ bytes

/-- Room for `n` more bytes. -/
def drain (s : Sink) (n : Nat) : Sink := { s with limit := s.limit.map (· + n) }

/-- Every further write fails. -/
def breakWith (s : Sink) (e : IoError) : Sink := { s with failure := some (s.accepted.length, e) }

end Sink

end Screencast
