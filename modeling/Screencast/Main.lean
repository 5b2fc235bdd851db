import Screencast.Config.File
import Screencast.Session.Synthetic

/-!
The command line. It prints the default settings, or runs one session of the synthetic device: the
desktop connects every channel, sends standard input on the control channel, lets a second pass and
goes.
-/

namespace Screencast

inductive UsageFault where
  | unknownArgument (argument : String)
  | missingValue
  | repeatedConfig
deriving DecidableEq, Repr, Inhabited

def UsageFault.message : UsageFault → String
  | unknownArgument argument => s!"unexpected argument '{argument}' found"
  | missingValue => "a value is required for '--config <CONFIG>' but none was supplied"
  | repeatedConfig => "the argument '--config <CONFIG>' cannot be used multiple times"

/-- What the arguments ask for. -/
structure Invocation where
  configPath : Option String := none
  printsDefaults : Bool := false
deriving DecidableEq, Repr, Inhabited

namespace Invocation

def defaultPath : String := "mirror-server.toml"

def withConfig (i : Invocation) (path : String) : Except UsageFault Invocation :=
  if i.configPath.isSome then .error .repeatedConfig else .ok { i with configPath := some path }

/-- The value of an argument such as `--config=PATH`. -/
def attached? (argument : String) : Option String :=
  let option := "--config=".toList
  let cs := argument.toList
  if option.isPrefixOf cs then some (String.ofList (cs.drop option.length)) else none

def read (i : Invocation) : List String → Except UsageFault Invocation
  | [] => .ok i
  | "--gen-config" :: rest => { i with printsDefaults := true }.read rest
  | ["--config"] | ["-c"] => .error .missingValue
  | "--config" :: path :: rest | "-c" :: path :: rest => do (← i.withConfig path).read rest
  | argument :: rest =>
    match attached? argument with
    | some path => do (← i.withConfig path).read rest
    | none => .error (.unknownArgument argument)

end Invocation

/-- The session of one desktop, from its coming to its going. -/
def SyntheticSession.visit (s : SyntheticSession) (control : Bytes) : SyntheticSession :=
  let kinds := s.options.enabled
  let listening : PerChannel (Option DirEntry) :=
    kinds.foldl (fun entries kind => entries.set kind (some .desktopSocket)) ⟨none, none, none⟩
  let s : SyntheticSession :=
    if s.options.tunnelForward then s else { s with dir.entries := listening }
  ((s.welcome kinds control).turnUntil (fun _ => false) 60).farewell kinds

/-- How much the desktop has received. -/
def SyntheticSession.summary (s : SyntheticSession) : List String :=
  s.options.enabled.map fun kind =>
    let name := kind.endpoint
    let count := (s.received kind).length
    s!"{name}: {count} bytes"

end Screencast

open Screencast

/-- All that a stream holds. -/
partial def readAll (stream : IO.FS.Stream) (before : ByteArray) : IO ByteArray := do
  let block ← stream.read 65536
  if block.isEmpty then return before else readAll stream (before ++ block)

/-- The content of a file, if it can be read. -/
def contentOf (path : String) : IO (Option String) := do
  try return some (← IO.FS.readFile path) catch _ => return none

def runSession (settings : Settings) : IO UInt32 := do
  match settings.session with
  | .error e =>
    IO.eprintln e.message
    return 1
  | .ok session =>
    let control ← readAll (← IO.getStdin) .empty
    let last := session.visit control.toList
    for line in last.summary do IO.println line
    match last.result? with
    | some (.error e) =>
      IO.eprintln e.message
      return 1
    | _ => return 0

def main (arguments : List String) : IO UInt32 := do
  let tempDir := (← IO.getEnv "TMPDIR").getD "/tmp"
  match Invocation.read {} arguments with
  | .error fault =>
    IO.eprintln fault.message
    return 2
  | .ok i =>
    if i.printsDefaults then
      IO.println (Settings.defaultFile tempDir)
      return 0
    else
      runSession (Settings.load tempDir (← contentOf (i.configPath.getD Invocation.defaultPath)))
