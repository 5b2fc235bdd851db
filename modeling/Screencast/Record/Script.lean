import Screencast.Capture.Scripted
import Screencast.Device.Platform
import Screencast.Encoder.Scripted
import Screencast.Record.Failure
import Screencast.Record.Geometry
import Screencast.Stream.Sink

/-!
Reading the scripts that platforms, encoders, sound sources and sinks follow. The outcomes of calls
are listed by the name of the call; `null` stands for success.
-/

namespace Screencast.Value

def outcomes {α : Type} (f : Value → Reading α) (faults : Value) (call : String) :
    Reading (List (Option α)) :=
  faults.each (fun outcome => match outcome with
    | null => .ok none
    | outcome => some <$> f outcome) call

def platform (v faults : Value) : Reading Platform := do
  let refused (_ : Value) : Reading Unit := .ok ()
  let script : PlatformScript :=
    { createDisplay := ← outcomes error faults "create_display"
      setSurface := ← outcomes error faults "set_surface"
      setPowerMode := ← outcomes error faults "power_mode"
      watchRotation := ← outcomes error faults "watch_rotation"
      watchClipboard := ← outcomes error faults "watch_clipboard"
      inject := ← outcomes refused faults "inject"
      setText := ← outcomes refused faults "set_text" }
  return {
    name := ← v.stringOr "Mock Device" "name"
    apiLevel := ← v.natOr 33 32 "api"
    naturalSize := (← v.read? size? "size").getD ⟨1080, 1920⟩
    hasSecondary := ← v.flagOr false "secondary"
    rotation := (← v.natOr 0 8 "rotation") % 4
    clipboard := ← v.read? text? "clipboard"
    screenOn := ← v.flagOr true "screen_on"
    script }

/-- The outcomes of calls to encoders of one kind, whose names begin with `mark`. -/
def encoderScript (faults : Value) (mark : String) : Reading EncoderScript := do
  let of (call : String) := outcomes encoderError faults (mark ++ call)
  return {
    create := ← of "create"
    configure := ← of "configure"
    surface := ← of "surface"
    start := ← of "start"
    submitInput := ← of "queue_input"
    returnOutput := ← of "release_output" }

def scriptedCatalogue : Catalogue :=
  [ ("hw.avc", "video/avc"), ("sw.avc", "video/avc"), ("hw.hevc", "video/hevc")
  , ("hw.opus", "audio/opus"), ("hw.aac", "audio/mp4a-latm") ]

def encoders (v faults : Value) (mark : String) : Reading ScriptedEncoders := do
  let pair (entry : Value) : Option (String × String) :=
    match entry with
    | list [name, mime] => do return (← name.text?, ← mime.text?)
    | _ => none
  let entries ← v.read? (fun c => c.list?.bind fun items => items.mapM pair) "encoders"
  return {
    catalogue := entries.getD scriptedCatalogue
    rejectAbove := ← v.read? (nat? 32) "reject_above"
    capacity := ← v.natOr 64 64 "capacity"
    script := ← encoderScript faults mark }

def reads (v : Value) : Reading (List ScriptedRead) :=
  v.each (fun r => match r.int? with
    | some n => .ok (.block n.toNat)
    | none => .error <$> r.ioError) "reads"

def source (v faults : Value) : Reading ScriptedSource := do
  return {
    reads := ← v.reads
    checkOutcomes := ← outcomes error faults "a.check"
    startOutcomes := ← outcomes error faults "a.cap_start" }

def sink (v : Value) : Reading Sink := do
  let e ← match v.get? "fail" with
    | some e => e.ioError
    | none => pure ⟨.brokenPipe, none⟩
  let failure := (← v.read? (nat? 64) "fail_at").map fun n => (n, e)
  let limit ← v.read? (nat? 64) "limit"
  match ← v.read? (nat? 64) "max_write" with
  | some most => return { failure, limit, quota := fun _ => most }
  | none => return { failure, limit }

end Screencast.Value
