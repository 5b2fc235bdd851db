import Screencast.Capture.Source
import Screencast.Scheduling

/-!
A sound source that follows a script: each read gets the next entry, and waits if there is none.
-/

namespace Screencast

inductive ScriptedRead where
  /-- A block of this many bytes, or as many as the buffer takes. -/
  | block (length : Nat)
  | error (e : IoError)
deriving DecidableEq, Repr, Inhabited

structure ScriptedSource where
  reads : List ScriptedRead := []
  checkOutcomes : List (Option Error) := []
  startOutcomes : List (Option Error) := []
  /-- Blocks read so far. -/
  blocks : Nat := 0
deriving Repr, Inhabited

namespace ScriptedSource

/-- Byte `k` of block `i` is `31 i + k`. -/
def block (i length : Nat) : Bytes := (List.range length).map fun k => UInt8.ofNat (31 * i + k)

def check (s : ScriptedSource) : ScriptedSource × Except Error Unit :=
  match nextOutcome s.checkOutcomes with
  | (some e, rest) => ({ s with checkOutcomes := rest }, .error e)
  | (none, rest) => ({ s with checkOutcomes := rest }, .ok ())

def start (s : ScriptedSource) : ScriptedSource × Except Error Unit :=
  match nextOutcome s.startOutcomes with
  | (some e, rest) => ({ s with startOutcomes := rest }, .error e)
  | (none, rest) => ({ s with startOutcomes := rest }, .ok ())

def answer? (s : ScriptedSource) (capacity : Nat) :
    Option (ScriptedSource × Except IoError Bytes) :=
  match s.reads with
  | [] => none
  | .error e :: reads => some ({ s with reads }, .error e)
  | .block length :: reads =>
    let s := { s with reads }
    some ({ s with blocks := s.blocks + 1 }, .ok (block s.blocks (min length capacity)))

instance : PcmSource ScriptedSource where
  check := check
  start := start
  beginRead s _ := s
  answer? := answer?
  stop s := s

end ScriptedSource

end Screencast
