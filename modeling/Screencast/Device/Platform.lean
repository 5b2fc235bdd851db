import Screencast.Device.Input
import Screencast.Error
import Screencast.Scheduling

/-!
The platform whose screen a session shows: its displays, input, clipboard and panels, kept in
memory, and the record of what was asked of it. Calls may fail as a script says; a call that fails
is recorded and has no effect.
-/

namespace Screencast

/-! ### What the platform offers, and on which levels -/

namespace ApiLevel

def pasteInjection : Nat := 24

def inputOnSecondaryDisplays : Nat := 29

/-- The last level on which a virtual display may be secure. -/
def secureDisplayMax : Nat := 30

end ApiLevel

structure DisplayState where
  displayId : Nat
  /-- The size at the present rotation. -/
  size : Size
  rotation : Nat
  layerStack : Nat
deriving DecidableEq, Repr, Inhabited

/-- How the content of the screen is laid onto the surface of an encoder. -/
structure Projection where
  orientation : Nat
  contentRect : Rect
  videoRect : Rect
  layerStack : Nat
deriving DecidableEq, Repr, Inhabited

inductive Panel where
  | notifications
  | settings
  | collapse
deriving DecidableEq, Repr, Inhabited

inductive PlatformCall where
  | inject (displayId : Nat) (mode : InjectionMode) (event : InputEvent)
  | setText (text : String)
  | setPowerMode (mode : UInt8)
  | panel (panel : Panel)
  | freezeRotation (rotation : Nat)
  | thawRotation
  | watchRotation (displayId : Nat)
  | unwatchRotation (displayId : Nat)
  | watchClipboard
deriving DecidableEq, Repr, Inhabited

/-- Calls about the virtual displays that feed encoders. -/
inductive DisplayCall where
  /-- The display that came of it, unless the call failed. -/
  | create (name : String) (secure : Bool) (display : Option Nat)
  | setSurface (display surface : Nat) (projection : Projection)
  | destroy (display : Nat)
deriving DecidableEq, Repr, Inhabited

/-- The outcomes of calls to come. An injection and a change of the clipboard are merely refused. -/
structure PlatformScript where
  createDisplay : List (Option Error) := []
  setSurface : List (Option Error) := []
  setPowerMode : List (Option Error) := []
  watchRotation : List (Option Error) := []
  watchClipboard : List (Option Error) := []
  inject : List (Option Unit) := []
  setText : List (Option Unit) := []
deriving Repr, Inhabited

structure Platform where
  name : String := "Mock Device"
  apiLevel : Nat := 33
  /-- The size of the screen at rotation 0. -/
  naturalSize : Size
  /-- Other displays exist too; all show the same. -/
  hasSecondary : Bool := false
  rotation : Nat := 0
  isFrozen : Bool := false
  frozenRotations : List Nat := []
  rotationWatched : Bool := false
  clipboard : Option String := none
  clipboardWatched : Bool := false
  events : List InputEvent := []
  screenOn : Bool := true
  powerModes : List UInt8 := []
  panels : List Panel := []
  displaysCreated : Nat := 0
  liveDisplays : Nat := 0
  projections : List Projection := []
  script : PlatformScript := {}
  calls : List PlatformCall := []
deriving Repr, Inhabited

namespace Platform

def record (p : Platform) (call : PlatformCall) : Platform := { p with calls := p.calls ++ [call] }

/-! ### The screen -/

/-- The size of the screen at the present rotation. -/
def screenSize (p : Platform) : Size :=
  if p.rotation % 2 = 0 then p.naturalSize else p.naturalSize.transpose

def describeDisplay (p : Platform) (id : Nat) : Except Error DisplayState :=
  if id != 0 && !p.hasSecondary then .error (.configuration (.noDisplay id))
  else .ok ⟨id, p.screenSize, p.rotation, id⟩

def turn (p : Platform) (rotation : Nat) : Platform := { p with rotation := rotation % 4 }

def freeze (p : Platform) (rotation : Nat) : Platform :=
  { p with isFrozen := true, frozenRotations := p.frozenRotations ++ [rotation] }

def thaw (p : Platform) : Platform := { p with isFrozen := false }

def watchRotation (p : Platform) (id : Nat) : Platform × Except Error Unit :=
  let p := p.record (.watchRotation id)
  match nextOutcome p.script.watchRotation with
  | (some e, rest) => ({ p with script := { p.script with watchRotation := rest } }, .error e)
  | (none, rest) =>
    ({ p with script := { p.script with watchRotation := rest }, rotationWatched := true }, .ok ())

def unwatchRotation (p : Platform) (id : Nat) : Platform :=
  { p.record (.unwatchRotation id) with rotationWatched := false }

def setPowerMode (p : Platform) (mode : UInt8) : Platform × Except Error Unit :=
  let p := p.record (.setPowerMode mode)
  match nextOutcome p.script.setPowerMode with
  | (some e, rest) => ({ p with script := { p.script with setPowerMode := rest } }, .error e)
  | (none, rest) =>
    ({ p with
        script := { p.script with setPowerMode := rest }
        powerModes := p.powerModes ++ [mode] }, .ok ())

/-! ### Virtual displays -/

def createDisplay (p : Platform) : Platform × Except Error Nat :=
  match nextOutcome p.script.createDisplay with
  | (some e, rest) => ({ p with script := { p.script with createDisplay := rest } }, .error e)
  | (none, rest) =>
    let display := p.displaysCreated + 1
    ({ p with
        script := { p.script with createDisplay := rest }
        displaysCreated := display
        liveDisplays := p.liveDisplays + 1 }, .ok display)

def setSurface (p : Platform) (projection : Projection) : Platform × Except Error Unit :=
  match nextOutcome p.script.setSurface with
  | (some e, rest) => ({ p with script := { p.script with setSurface := rest } }, .error e)
  | (none, rest) =>
    ({ p with
        script := { p.script with setSurface := rest }
        projections := p.projections ++ [projection] }, .ok ())

def dropDisplay (p : Platform) : Platform := { p with liveDisplays := p.liveDisplays - 1 }

/-! ### Input, clipboard and panels -/

/-- Says whether the event was taken. -/
def inject (p : Platform) (id : Nat) (mode : InjectionMode) (event : InputEvent) :
    Platform × Bool :=
  let p := p.record (.inject id mode event)
  match nextOutcome p.script.inject with
  | (some (), rest) => ({ p with script := { p.script with inject := rest } }, false)
  | (none, rest) =>
    ({ p with script := { p.script with inject := rest }, events := p.events ++ [event] }, true)

def fillClipboard (p : Platform) (text : String) : Platform := { p with clipboard := some text }

/-- Says whether the text was taken. -/
def setText (p : Platform) (text : String) : Platform × Bool :=
  let p := p.record (.setText text)
  match nextOutcome p.script.setText with
  | (some (), rest) => ({ p with script := { p.script with setText := rest } }, false)
  | (none, rest) =>
    ({ p with script := { p.script with setText := rest } }.fillClipboard text, true)

def watchClipboard (p : Platform) : Platform × Except Error Unit :=
  let p := p.record .watchClipboard
  match nextOutcome p.script.watchClipboard with
  | (some e, rest) => ({ p with script := { p.script with watchClipboard := rest } }, .error e)
  | (none, rest) =>
    ({ p with script := { p.script with watchClipboard := rest }, clipboardWatched := true },
      .ok ())

def showPanel (p : Platform) (panel : Panel) : Platform :=
  { p.record (.panel panel) with panels := p.panels ++ [panel] }

/-- Action and code of the keys that were injected. -/
def keycodes (p : Platform) : List (UInt8 × UInt32) :=
  p.events.filterMap fun event =>
    match event with
    | .key k => some (k.action, k.keycode)
    | _ => none

end Platform

end Screencast
