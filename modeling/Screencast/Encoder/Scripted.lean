import Screencast.Encoder.Host
import Screencast.Scheduling

/-!
Encoders that do what a script says: their calls succeed or fail as listed, and their buffers are
filled from outside.
-/

namespace Screencast

structure EncoderScript where
  create : List (Option EncoderError) := []
  configure : List (Option EncoderError) := []
  surface : List (Option EncoderError) := []
  start : List (Option EncoderError) := []
  submitInput : List (Option EncoderError) := []
  returnOutput : List (Option EncoderError) := []
deriving Repr, Inhabited

structure StoredBuffer where
  encoder : Nat
  index : Nat
  data : Bytes
deriving DecidableEq, Repr, Inhabited

structure ScriptedEncoders where
  catalogue : Catalogue
  /-- Larger pictures are rejected. -/
  rejectAbove : Option Nat := none
  /-- The size of an input buffer. -/
  capacity : Nat := 64
  script : EncoderScript := {}
  created : Nat := 0
  /-- The encoder that was started last, as long as it holds on to its reporting side. -/
  current : Option Nat := none
  buffers : List StoredBuffer := []
deriving Repr, Inhabited

namespace ScriptedEncoders

/-- Fails with the outcome that the script holds, otherwise goes on. -/
def guarded {α : Type} (outcomes : List (Option EncoderError))
    (after : List (Option EncoderError) → ScriptedEncoders)
    (go : ScriptedEncoders → ScriptedEncoders × Except EncoderError α) :
    ScriptedEncoders × Except EncoderError α :=
  match nextOutcome outcomes with
  | (some e, rest) => (after rest, .error e)
  | (none, rest) => go (after rest)

def inputBuffers : Nat := 4

def holds (encoder index : Nat) (b : StoredBuffer) : Bool := b.encoder = encoder && b.index = index

/-- Fills an output buffer of an encoder. -/
def store (h : ScriptedEncoders) (encoder index : Nat) (data : Bytes) : ScriptedEncoders :=
  { h with
    buffers := ⟨encoder, index, data⟩ :: h.buffers.filter fun b => !holds encoder index b }

def find (h : ScriptedEncoders) (choice : EncoderChoice) : Except EncoderError String :=
  match h.catalogue.choose? choice with
  | some name => .ok name
  | none =>
    let wanted := match choice with
      | .byName name => name
      | .byMime mime => mime
    .error (.unsupported s!"no encoder for {wanted}")

def create (h : ScriptedEncoders) (_ : String) : ScriptedEncoders × Except EncoderError Nat :=
  guarded h.script.create (fun rest => { h with script := { h.script with create := rest } })
    fun h => ({ h with created := h.created + 1 }, .ok (h.created + 1))

def configure (h : ScriptedEncoders) (_ : Nat) (format : EncoderFormat) :
    ScriptedEncoders × Except EncoderError Unit :=
  guarded h.script.configure
    (fun rest => { h with script := { h.script with configure := rest } })
    fun h =>
      match format.size?, h.rejectAbove with
      | some size, some limit =>
        let text := size.text
        if size.larger > limit then (h, .error (.rejected s!"{text} exceeds {limit}"))
        else (h, .ok ())
      | _, _ => (h, .ok ())

def surface (h : ScriptedEncoders) (encoder : Nat) : ScriptedEncoders × Except EncoderError Nat :=
  guarded h.script.surface (fun rest => { h with script := { h.script with surface := rest } })
    fun h => (h, .ok encoder)

def start (h : ScriptedEncoders) (encoder : Nat) : ScriptedEncoders × Except EncoderError Unit :=
  guarded h.script.start (fun rest => { h with script := { h.script with start := rest } })
    fun h => ({ h with current := some encoder }, .ok ())

def submitInput (h : ScriptedEncoders) (_ _ : Nat) (_ : AccessUnit) :
    ScriptedEncoders × Except EncoderError Unit :=
  guarded h.script.submitInput
    (fun rest => { h with script := { h.script with submitInput := rest } })
    fun h => (h, .ok ())

def returnOutput (h : ScriptedEncoders) (encoder index : Nat) :
    ScriptedEncoders × Except EncoderError Unit :=
  let h := { h with buffers := h.buffers.filter fun b => !holds encoder index b }
  guarded h.script.returnOutput
    (fun rest => { h with script := { h.script with returnOutput := rest } })
    fun h => (h, .ok ())

instance : EncoderHost ScriptedEncoders where
  names h mime := h.catalogue.names mime
  find := find
  create := create
  configure := configure
  surface := surface
  start := start
  inputRoom h _ index :=
    if index < inputBuffers then .ok h.capacity else .error (.invalidBuffer index)
  submitInput := submitInput
  readOutput h encoder index :=
    match h.buffers.find? (holds encoder index) with
    | some b => .ok b.data
    | none => .error (.invalidBuffer index)
  returnOutput := returnOutput
  stop h _ := h
  release h _ := h

end ScriptedEncoders

end Screencast
