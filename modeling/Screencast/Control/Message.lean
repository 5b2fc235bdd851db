import Screencast.Device.Input
import Screencast.Geometry.Position

/-!
The messages of the control channel: requests of the desktop, and what the device tells it.
-/

namespace Screencast

/-- The key to press before the clipboard is read. -/
inductive CopyKey where
  | none
  | copy
  | cut
deriving DecidableEq, Repr, Inhabited

def CopyKey.code : CopyKey → Nat
  | none => 0
  | copy => 1
  | cut => 2

def CopyKey.ofCode? : Nat → Option CopyKey
  | 0 => some none
  | 1 => some copy
  | 2 => some cut
  | _ => Option.none

structure Touch where
  action : UInt8
  pointerId : UInt64
  position : Position
  pressure : Binary32
  actionButton : UInt32
  buttons : UInt32
deriving DecidableEq, Repr, Inhabited

structure Scroll where
  position : Position
  horizontal : Int16
  vertical : Int16
  buttons : UInt32
deriving DecidableEq, Repr, Inhabited

/-- A sequence number of 0 asks for no acknowledgement. -/
structure ClipboardUpdate where
  sequence : UInt64
  paste : Bool
  text : String
deriving DecidableEq, Repr, Inhabited

inductive ControlMessage where
  | key (key : KeyEvent)
  | typeText (text : String)
  | touch (touch : Touch)
  | scroll (scroll : Scroll)
  | backOrWake (action : UInt8)
  | openNotifications
  | openSettings
  | closePanels
  | fetchClipboard (copyKey : CopyKey)
  | fillClipboard (update : ClipboardUpdate)
  | setPower (mode : UInt8)
  | rotate
deriving DecidableEq, Repr, Inhabited

inductive DeviceMessage where
  | clipboard (text : String)
  | ack (sequence : UInt64)
deriving DecidableEq, Repr, Inhabited

/-- The first byte of the message on the wire. -/
def ControlMessage.tag : ControlMessage → Nat
  | key _ => 0
  | typeText _ => 1
  | touch _ => 2
  | scroll _ => 3
  | backOrWake _ => 4
  | openNotifications => 5
  | openSettings => 6
  | closePanels => 7
  | fetchClipboard _ => 8
  | fillClipboard _ => 9
  | setPower _ => 10
  | rotate => 11

def DeviceMessage.tag : DeviceMessage → Nat
  | clipboard _ => 0
  | ack _ => 1

/-- No message on the wire is longer. -/
def messageMax : Nat := 0x40000

def typedTextMax : Nat := 300

/-- What tag, sequence, paste flag and length leave of the longest message. -/
def clipboardTextMax : Nat := messageMax - 14

/-- What tag and length leave of the longest message. -/
def deviceClipboardTextMax : Nat := messageMax - 5

end Screencast
