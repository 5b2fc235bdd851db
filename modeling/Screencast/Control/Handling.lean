import Screencast.Control.Message
import Screencast.Device.Basic

/-!
What the messages of the desktop do to the device, and what the device tells the desktop in turn.
A device that does not take input leaves out what would need it.
-/

namespace Screencast.Device

def touch (d : Device) (t : Touch) : Device :=
  match d.geometry.onScreen? t.position with
  | none => d
  | some point =>
    let motion : MotionEvent :=
      { action := t.action
        pointerId := t.pointerId
        point
        pressure := t.pressure.clampToUnit
        actionButton := t.actionButton
        buttons := t.buttons }
    (d.inject (.motion motion) .async).1

def scroll (d : Device) (s : Scroll) : Device :=
  match d.geometry.onScreen? s.position with
  | none => d
  | some point => (d.inject (.scroll ⟨point, s.horizontal, s.vertical, s.buttons⟩) .async).1

/-- The back key as long as the screen is on; otherwise the power key, once for a whole press. -/
def backOrWake (d : Device) (action : UInt8) : Device :=
  if d.platform.screenOn then (d.inject (.key { action, keycode := Keycode.back }) .async).1
  else if action = Action.down then (d.pressKey Keycode.power .async).1
  else d

/-- Presses the key that fills the clipboard from the selection. -/
def pressCopyKey (d : Device) (key : CopyKey) : Device :=
  if d.supportsInput && d.platform.apiLevel ≥ ApiLevel.pasteInjection then
    match key with
    | .none => d
    | .copy => (d.pressKey Keycode.copy .waitForFinish).1
    | .cut => (d.pressKey Keycode.cut .waitForFinish).1
  else d

/-- The acknowledgement does not depend on whether the text was taken. -/
def updateClipboard (d : Device) (c : ClipboardUpdate) : Device :=
  match d.fillClipboard c.text with
  | (d, true) =>
    if c.paste && d.supportsInput && d.platform.apiLevel ≥ ApiLevel.pasteInjection then
      (d.pressKey Keycode.paste .async).1
    else d
  | (d, false) => d

/-- At the start of a session. -/
def wake (d : Device) : Device :=
  if d.supportsInput && !d.platform.screenOn then (d.pressKey Keycode.power .async).1 else d

/-- Does what a message asks for, and gives the answer if there is one. -/
def handle (d : Device) (m : ControlMessage) : Device × Option DeviceMessage :=
  let ifInput (act : Device → Device) : Device × Option DeviceMessage :=
    (if d.supportsInput then act d else d, none)
  match m with
  | .key key => ifInput fun d => (d.inject (.key key) .async).1
  | .typeText text => ifInput fun d => (d.typeText text).1
  | .touch touch => ifInput fun d => d.touch touch
  | .scroll scroll => ifInput fun d => d.scroll scroll
  | .backOrWake action => ifInput fun d => d.backOrWake action
  | .openNotifications => (d.showPanel .notifications, none)
  | .openSettings => (d.showPanel .settings, none)
  | .closePanels => (d.showPanel .collapse, none)
  | .fetchClipboard key =>
    let d := d.pressCopyKey key
    (d, d.platform.clipboard.map .clipboard)
  | .fillClipboard update => (d.updateClipboard update, some (.ack update.sequence))
  | .setPower mode => ifInput fun d => (d.setPowerMode mode).1
  | .rotate => (d.rotate, none)

end Screencast.Device
