import Screencast.Device.Geometry
import Screencast.Device.Platform
import Screencast.Options.Basic

/-!
The device of a session: the platform, the geometry that follows its rotation, and what the session
does to it. Rotations are published under a version number, so that a reader can tell whether it
has seen the last one. Changes of the clipboard are heard unless the session makes them itself.
-/

namespace Screencast

structure Device where
  platform : Platform
  displayId : Nat
  layerStack : Nat
  geometry : DeviceGeometry
  /-- The rotation that was published last, and how often one was. -/
  rotation : Nat
  rotationVersion : Nat := 0
  watchesRotation : Bool := false
  /-- The session is changing the clipboard. -/
  settingClipboard : Bool := false
  /-- Somebody listens to the clipboard. -/
  listening : Bool := false
  /-- The texts heard so far. -/
  heard : List String := []
deriving Repr, Inhabited

namespace Device

/-- A platform that nobody watches or listens to. -/
def unused (platform : Platform) : Device :=
  { platform, displayId := 0, layerStack := 0, geometry := default, rotation := 0 }

def layout (d : Device) : ScreenLayout := d.geometry.layout

/-- Secondary displays do not take input on early platforms. -/
def supportsInput (d : Device) : Bool :=
  d.displayId = 0 || d.platform.apiLevel ≥ ApiLevel.inputOnSecondaryDisplays

/-- The device of these options. The platform comes back also when there is none. A device that
cannot hear of its clipboard works all the same. -/
def create (options : Options) (platform : Platform) : Platform × Except Error Device :=
  match platform.describeDisplay options.displayId with
  | .error e => (platform, .error e)
  | .ok info =>
    match platform.watchRotation options.displayId with
    | (platform, .error e) => (platform, .error e)
    | (platform, .ok ()) =>
      let platform := if options.control && options.clipboardAutosync
        then platform.watchClipboard.1 else platform
      (platform, .ok
        { platform
          displayId := options.displayId
          layerStack := info.layerStack
          geometry := .start info.rotation info.size options.crop options.maxSize options.lock
          rotation := info.rotation % 4
          watchesRotation := true })

/-! ### Rotation -/

/-- The first half of a change of rotation: the geometry turns. -/
def turnGeometry (d : Device) (rotation : Nat) : Device :=
  { d with geometry := d.geometry.turn rotation }

/-- The second half of a change of rotation: readers learn of it. -/
def publishRotation (d : Device) (rotation : Nat) : Device :=
  { d with rotation := rotation % 4, rotationVersion := d.rotationVersion + 1 }

def noteRotation (d : Device) (rotation : Nat) : Device :=
  (d.turnGeometry rotation).publishRotation rotation

/-- The screen turns, and the device hears of it as long as it watches. -/
def turnScreen (d : Device) (rotation : Nat) : Device :=
  let d := { d with platform := d.platform.turn rotation }
  if d.platform.rotationWatched then d.noteRotation rotation else d

/-- The rotation is held, at another one if need be. -/
def freezeScreen (d : Device) (rotation : Nat) : Device :=
  let d := { d with platform := d.platform.freeze rotation }
  if d.platform.rotation != rotation then d.turnScreen rotation else d

def thawScreen (d : Device) : Device := { d with platform := d.platform.thaw }

/-- Lowers the maximum size of the video. -/
def limitSize (d : Device) (maxSize : Nat) : Device :=
  { d with geometry := d.geometry.limitSize maxSize }

/-- From portrait to landscape or back. Whether the rotation is held does not change. -/
def rotate (d : Device) : Device :=
  let wasFrozen := d.platform.isFrozen
  let rotation := if d.platform.rotation % 2 = 0 then 1 else 0
  let d := { d with platform := d.platform.record (.freezeRotation rotation) }
  let d := d.freezeScreen rotation
  if wasFrozen then d
  else { d with platform := d.platform.record .thawRotation }.thawScreen

/-! ### Input -/

/-- Says whether the event was taken. -/
def inject (d : Device) (event : InputEvent) (mode : InjectionMode) : Device × Bool :=
  if d.supportsInput then
    let (platform, taken) := d.platform.inject d.displayId mode event
    ({ d with platform }, taken)
  else (d, false)

/-- Presses and releases a key; it is not released if the press was refused. -/
def pressKey (d : Device) (keycode : UInt32) (mode : InjectionMode) : Device × Bool :=
  match d.inject (.key { action := Action.down, keycode }) .async with
  | (d, false) => (d, false)
  | (d, true) => d.inject (.key { action := Action.up, keycode }) mode

/-! ### Clipboard -/

/-- The clipboard has changed. -/
def hearClipboard (d : Device) : Device :=
  if d.settingClipboard || !d.listening then d
  else { d with heard := d.heard ++ d.platform.clipboard.toList }

/-- The platform tells of every change, whoever made it. -/
def clipboardChanged (d : Device) : Device :=
  if d.platform.clipboardWatched then d.hearClipboard else d

/-- An app on the device sets the clipboard. -/
def appSetsClipboard (d : Device) (text : String) : Device :=
  { d with platform := d.platform.fillClipboard text }.clipboardChanged

/-- Says whether the text was taken. -/
def setText (d : Device) (text : String) : Device × Bool :=
  match d.platform.setText text with
  | (platform, true) => ({ d with platform }.clipboardChanged, true)
  | (platform, false) => ({ d with platform }, false)

/-- What is done to the clipboard in the meantime is not heard. -/
def quietly {α : Type} (d : Device) (change : Device → Device × α) : Device × α :=
  let (d, result) := change { d with settingClipboard := true }
  ({ d with settingClipboard := false }, result)

def fillClipboard (d : Device) (text : String) : Device × Bool := d.quietly fun d => d.setText text

/-- Sets the clipboard to the text and presses the paste key, in this order as far as it goes. -/
def pasteText (d : Device) (text : String) : Device × Bool :=
  match d.setText text with
  | (d, false) => (d, false)
  | (d, true) => d.pressKey Keycode.paste .waitForResult

/-- Types a text by pasting it, and puts the clipboard back as it was. -/
def typeText (d : Device) (text : String) : Device × Bool :=
  if d.platform.apiLevel < ApiLevel.pasteInjection then (d, false)
  else
    let backup := d.platform.clipboard
    d.quietly fun d =>
      let (d, taken) := d.pasteText text
      match backup with
      | some text => ((d.setText text).1, taken)
      | none => (d, taken)

/-! ### Other actions -/

/-- Says whether the mode was taken. -/
def setPowerMode (d : Device) (mode : UInt8) : Device × Bool :=
  match d.platform.setPowerMode mode with
  | (platform, .ok ()) => ({ d with platform }, true)
  | (platform, .error _) => ({ d with platform }, false)

def showPanel (d : Device) (panel : Panel) : Device :=
  { d with platform := d.platform.showPanel panel }

/-- Nothing is heard or watched any more. -/
def release (d : Device) : Device :=
  let d := { d with listening := false }
  if d.watchesRotation then
    { d with platform := d.platform.unwatchRotation d.displayId, watchesRotation := false }
  else d

end Device

end Screencast
