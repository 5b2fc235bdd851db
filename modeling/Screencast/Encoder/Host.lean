import Screencast.Bytes
import Screencast.Encoder.Format
import Screencast.Stream.Packet

/-!
The encoders of a device, as the session uses them, and the record of its calls. Instances of
encoders are numbered by their host.
-/

namespace Screencast

inductive EncoderChoice where
  | byName (name : String)
  | byMime (mime : String)
deriving DecidableEq, Repr, Inhabited

/-- What a device offers. Every call may fail, and may change the state of the host. -/
class EncoderHost (σ : Type) where
  /-- The names of the encoders for a MIME type. -/
  names : σ → String → List String
  find : σ → EncoderChoice → Except EncoderError String
  create : σ → String → σ × Except EncoderError Nat
  configure : σ → Nat → EncoderFormat → σ × Except EncoderError Unit
  /-- The surface that a video encoder takes its pictures from. -/
  surface : σ → Nat → σ × Except EncoderError Nat
  start : σ → Nat → σ × Except EncoderError Unit
  inputRoom : σ → Nat → Nat → Except EncoderError Nat
  submitInput : σ → Nat → Nat → AccessUnit → σ × Except EncoderError Unit
  readOutput : σ → Nat → Nat → Except EncoderError Bytes
  returnOutput : σ → Nat → Nat → σ × Except EncoderError Unit
  stop : σ → Nat → σ
  release : σ → Nat → σ

inductive EncoderCall where
  /-- The encoder that came of it, unless the call failed. -/
  | create (name : String) (encoder : Option Nat)
  | configure (encoder : Nat) (format : EncoderFormat)
  | surface (encoder : Nat)
  | start (encoder : Nat)
  | submitInput (encoder index : Nat) (unit : AccessUnit)
  | readOutput (encoder index : Nat)
  | returnOutput (encoder index : Nat)
  /-- Closing the queues that the encoder reports through. -/
  | closeQueues (encoder : Nat)
  | stop (encoder : Nat)
  | release (encoder : Nat)
deriving DecidableEq, Repr, Inhabited

/-- What a call to create an encoder came to, and the calls it took. -/
structure Creation (σ : Type) where
  host : σ
  calls : List EncoderCall
  result : Except Error Nat

/-- By name when one is asked for. A name that the device does not have for this MIME type is
refused with the names it has. -/
def openEncoder {σ : Type} [EncoderHost σ] (host : σ) (mime : String) (name : Option String) :
    Creation σ :=
  let failed (e : EncoderError) : Error := .configuration (.encoderCreation mime e)
  let make (choice : EncoderChoice) : Creation σ :=
    match EncoderHost.find host choice with
    | .error e => ⟨host, [], .error (failed e)⟩
    | .ok found =>
      match EncoderHost.create host found with
      | (host, .error e) => ⟨host, [.create found none], .error (failed e)⟩
      | (host, .ok encoder) => ⟨host, [.create found (some encoder)], .ok encoder⟩
  match name with
  | none => make (.byMime mime)
  | some name =>
    let available := EncoderHost.names host mime
    if available.contains name then make (.byName name)
    else ⟨host, [], .error (.invalidEncoder name available)⟩

/-- The names and MIME types of encoders, the preferred ones first. -/
abbrev Catalogue := List (String × String)

namespace Catalogue

def names (c : Catalogue) (mime : String) : List String :=
  (List.filter (fun entry => entry.2 = mime) c).map Prod.fst

def choose? (c : Catalogue) : EncoderChoice → Option String
  | .byName name => (List.find? (fun entry => entry.1 = name) c).map Prod.fst
  | .byMime mime => (List.find? (fun entry => entry.2 = mime) c).map Prod.fst

end Catalogue

end Screencast
