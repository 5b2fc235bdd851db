import Screencast.Capture.Source

/-!
A sound source without a microphone: every ten milliseconds it gives a block of a fixed pattern.
-/

namespace Screencast

structure SyntheticSource where
  supported : Bool := true
  /-- After this many blocks the source is at its end. -/
  eofAfter : Option Nat := none
  blocks : Nat := 0
  started : Bool := false
  stopped : Bool := false
  /-- A read has been begun that takes its ten milliseconds. -/
  waiting : Bool := false
  /-- The ten milliseconds of that read are over. -/
  due : Bool := false
deriving DecidableEq, Repr, Inhabited

namespace SyntheticSource

/-- Ten milliseconds of sound. -/
def blockSize : Nat := 1920

/-- Byte `k` of block `i` is `i + k`. -/
def block (i length : Nat) : Bytes := (List.range length).map fun k => UInt8.ofNat (i + k)

def atEnd (s : SyntheticSource) : Bool := s.eofAfter.any (· ≤ s.blocks)

def check (s : SyntheticSource) : Except Error Unit :=
  if s.supported then .ok () else .error (.unsupported "audio capture requires API 30")

/-- Only a read that has to wait for sound takes its time. -/
def beginRead (s : SyntheticSource) : SyntheticSource :=
  { s with waiting := s.started && !s.atEnd, due := false }

def answer? (s : SyntheticSource) (capacity : Nat) :
    Option (SyntheticSource × Except IoError Bytes) :=
  if !s.started then some (s, .error ⟨.other, some "capture not started"⟩)
  else if s.atEnd then some (s, .ok [])
  else if s.due then
    let bytes := block s.blocks (min capacity blockSize)
    some ({ s with blocks := s.blocks + 1, waiting := false, due := false }, .ok bytes)
  else none

/-- Ten milliseconds pass. -/
def tick (s : SyntheticSource) : SyntheticSource := { s with due := s.waiting }

/-- A read that waits for as long as it takes. -/
def read (s : SyntheticSource) (capacity : Nat) : SyntheticSource × Except IoError Bytes :=
  (s.beginRead.tick.answer? capacity).getD (s, .ok [])

instance : PcmSource SyntheticSource where
  check s := (s, s.check)
  start s := ({ s with started := true }, .ok ())
  beginRead s _ := s.beginRead
  answer? := answer?
  stop s := { s with stopped := true }

end SyntheticSource

end Screencast
