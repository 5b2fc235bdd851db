import Screencast.Audio.Basic

/-!
Recording sound as it is captured: one packet for each block that is read.
-/

namespace Screencast.AudioSession

variable {σ γ : Type}

def stopBranch (s : AudioSession σ γ) : Option (AudioSession σ γ) :=
  if s.stopping then some { s with stage := .tearDown none (.ok ()) } else none

/-- The packet carries the timestamp of its first sample. -/
def beginRecordWrite (s : AudioSession σ γ) (data : Bytes) : AudioSession σ γ :=
  let unit : AccessUnit := ⟨data, s.clock.pts, .none⟩
  let s := { s with clock := s.clock.advance data.length }
  match s.framer.packet unit with
  | .error e => { s with stage := .tearDown none (.error e) }
  | .ok (framer, bytes) => { s with framer, stage := .recordWrite { rest := bytes.getD [] } }

variable [PcmSource γ]

/-- The stop signal is not heard here. -/
def recordHeader? (s : AudioSession σ γ) (t : Transfer) : Option (AudioSession σ γ) :=
  match s.sink.transfer t with
  | (_, .waits) => none
  | (sink, .stalls t) => some { s with sink, stage := .recordHeader t }
  | (sink, .ends (.ok ())) => some { s with sink }.beginRecordRead
  | (sink, .ends (.error e)) => some { s with sink, stage := .tearDown none (.error e) }

def readBranch (s : AudioSession σ γ) : Option (AudioSession σ γ) :=
  (PcmSource.answer? s.source packetSize).map fun (source, result) =>
    let s := { s with source }.record [.capture (.read packetSize result)]
    match result with
    | .error e => { s with stage := .tearDown none (.error (.io e)) }
    | .ok [] => { s with stage := .tearDown none (.error noSound) }
    | .ok data => s.beginRecordWrite data

def writeBranch (s : AudioSession σ γ) (t : Transfer) : Option (AudioSession σ γ) :=
  match s.sink.transfer t with
  | (_, .waits) => none
  | (sink, .stalls t) => some { s with sink, stage := .recordWrite t }
  | (sink, .ends (.ok ())) => some { s with sink }.beginRecordRead
  | (sink, .ends (.error e)) => some { s with sink, stage := .tearDown none (.error e) }

end Screencast.AudioSession
