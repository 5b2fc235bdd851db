import Screencast.Audio.Basic

/-!
Encoding sound: input buffers are filled with what is captured, in the order in which they become
free, and output buffers are written, in the order in which they become ready. Both go on side by
side, and whichever ends first ends both.
-/

namespace Screencast.AudioSession

variable {σ γ : Type} [EncoderHost σ]

/-! ### Setting up -/

def openEncoder (s : AudioSession σ γ) : AudioSession σ γ :=
  let c := Screencast.openEncoder s.host s.setup.codec.mime s.setup.encoderName
  let s := { s.record (c.calls.map .encoder) with host := c.host }
  match c.result with
  | .ok encoder => { s with listening := {}, stage := .configure encoder }
  | .error e => s.disable true (.fail e)

def format (s : AudioSession σ γ) : EncoderFormat :=
  .audio s.setup.codec.mime s.setup.bitRate audioFormat.sampleRate audioFormat.channels
    s.setup.codecOptions

def configure (s : AudioSession σ γ) (encoder : Nat) : AudioSession σ γ :=
  let s := s.record [.encoder (.configure encoder s.format)]
  match EncoderHost.configure s.host encoder s.format with
  | (host, .ok ()) => { s with host, stage := .startCapture (some encoder) }
  | (host, .error e) => { s with host }.disable true (.giveBack encoder (.codec e))

/-- The header is the first thing to be written, and begins to wait for the sink here. -/
def startEncoder (s : AudioSession σ γ) (encoder : Nat) : AudioSession σ γ :=
  let s := s.record [.encoder (.start encoder)]
  match EncoderHost.start s.host encoder with
  | (host, .error e) => { s with host }.disable true (.giveBack encoder (.codec e))
  | (host, .ok ()) =>
    let s := { s with host, listening.reporter := some encoder }
    match s.framer.audioHeader with
    | (framer, none) => { s with framer, stage := .encoding encoder .idle .idle }
    | (framer, some bytes) =>
      { s with framer, stage := .encoding encoder .idle (.header { rest := bytes }) }

def finish (s : AudioSession σ γ) (encoder : Nat) (result : Except Error Unit) :
    AudioSession σ γ :=
  { s with stage := .tearDown (some encoder) result }

/-! ### Input buffers -/

section

variable [PcmSource γ]

def beginFill (s : AudioSession σ γ) (encoder index : Nat) (output : OutputStage) :
    AudioSession σ γ :=
  match EncoderHost.inputRoom s.host encoder index with
  | .error e => s.finish encoder (.error (.codec e))
  | .ok capacity =>
    { s with
      source := PcmSource.beginRead s.source capacity
      stage := .encoding encoder (.reading index capacity) output }

/-- The block carries the timestamp of its first sample. -/
def queue (s : AudioSession σ γ) (encoder index : Nat) (data : Bytes) (output : OutputStage) :
    AudioSession σ γ :=
  let unit : AccessUnit := ⟨data, s.clock.pts, .none⟩
  let s := { s with clock := s.clock.advance data.length }
  let s := s.record [.encoder (.submitInput encoder index unit)]
  match EncoderHost.submitInput s.host encoder index unit with
  | (host, .error e) => { s with host }.finish encoder (.error (.codec e))
  | (host, .ok ()) => { s with host, stage := .encoding encoder .idle output }

/-- From one place where the input side waits to the next. -/
def inputBranch (s : AudioSession σ γ) (encoder : Nat) (input : InputStage)
    (output : OutputStage) : Option (AudioSession σ γ) :=
  match input with
  | .idle =>
    match s.listening.takeInput with
    | (_, .empty) => none
    | (listening, .ended) => some ({ s with listening }.finish encoder (.error .channelClosed))
    | (listening, .item index) => some ({ s with listening }.beginFill encoder index output)
  | .reading index capacity =>
    (PcmSource.answer? s.source capacity).map fun (source, result) =>
      let s := { s with source }.record [.capture (.read capacity result)]
      match result with
      | .error e => s.finish encoder (.error (.io e))
      | .ok [] => s.finish encoder (.error noSound)
      | .ok data => s.queue encoder index data output

end

/-! ### Output buffers -/

/-- A buffer that cannot be given back ends the session, and so does one that was not written. -/
def giveBack (s : AudioSession σ γ) (encoder : Nat) (input : InputStage) (output : OutputBuffer)
    (written : Except Error Unit) : AudioSession σ γ :=
  let s := s.record [.encoder (.returnOutput encoder output.index)]
  match EncoderHost.returnOutput s.host encoder output.index, written with
  | (host, .error e), _ => { s with host }.finish encoder (.error (.codec e))
  | (host, .ok ()), .error e => { s with host }.finish encoder (.error e)
  | (host, .ok ()), .ok () =>
    if output.info.flags.isEndOfStream then { s with host }.finish encoder (.ok ())
    else { s with host, stage := .encoding encoder input .idle }

/-- Goes on with the writing of a buffer, unless the sink takes nothing for now. -/
def writeBuffer? (s : AudioSession σ γ) (encoder : Nat) (input : InputStage)
    (output : OutputBuffer) (t : Transfer) : Option (AudioSession σ γ) :=
  match s.sink.transfer t with
  | (_, .waits) => none
  | (sink, .stalls t) => some { s with sink, stage := .encoding encoder input (.writing output t) }
  | (sink, .ends result) => some ({ s with sink }.giveBack encoder input output result)

/-- Takes the content of a buffer and begins to write it. Empty buffers are not written. -/
def deliver (s : AudioSession σ γ) (encoder : Nat) (input : InputStage) (output : OutputBuffer) :
    Option (AudioSession σ γ) :=
  let s := s.record [.encoder (.readOutput encoder output.index)]
  match EncoderHost.readOutput s.host encoder output.index with
  | .error e => some (s.giveBack encoder input output (.error (.codec e)))
  | .ok data =>
    if output.info.size = 0 then some (s.giveBack encoder input output (.ok ()))
    else match s.framer.packet (output.info.unit data) with
      | .error e => some (s.giveBack encoder input output (.error e))
      | .ok (framer, none) => some ({ s with framer }.giveBack encoder input output (.ok ()))
      | .ok (framer, some bytes) =>
        { s with framer }.writeBuffer? encoder input output { rest := bytes }

/-- From one place where the output side waits to the next. -/
def outputBranch (s : AudioSession σ γ) (encoder : Nat) (input : InputStage)
    (output : OutputStage) : Option (AudioSession σ γ) :=
  match output with
  | .header t =>
    match s.sink.transfer t with
    | (_, .waits) => none
    | (sink, .stalls t) => some { s with sink, stage := .encoding encoder input (.header t) }
    | (sink, .ends (.ok ())) => some { s with sink, stage := .encoding encoder input .idle }
    | (sink, .ends (.error e)) => some ({ s with sink }.finish encoder (.error e))
  | .idle =>
    match s.listening.takeOutput with
    | (_, .empty) => none
    | (listening, .ended) => some ({ s with listening }.finish encoder (.error .channelClosed))
    | (listening, .item output) => { s with listening }.deliver encoder input output
  | .writing output t => s.writeBuffer? encoder input output t

/-! ### Both -/

/-- When more than one side can go on, `pick` decides. -/
def encode [PcmSource γ] (pick : Nat) (s : AudioSession σ γ) (encoder : Nat) (input : InputStage)
    (output : OutputStage) : Option (AudioSession σ γ) :=
  firstReady pick
    [ if s.stopping then some (s.finish encoder (.ok ())) else none
    , s.listening.failure?.map fun e => s.finish encoder (.error e)
    , s.inputBranch encoder input output
    , s.outputBranch encoder input output ]

end Screencast.AudioSession
