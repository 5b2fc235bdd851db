import Screencast.Binary32.Fraction16
import Screencast.Control.Decoding
import Screencast.Control.Message
import Screencast.Text.Truncate

/-!
The wire format of the control channel. All words are big-endian. A position is `x`, `y` (32 bits
each) and the width and height of the picture (16 bits each); a text follows its length (32 bits).
-/

namespace Screencast

/-- A message that could not be encoded, and what of it was written before that showed. -/
structure EncodeFailure where
  written : Bytes
  cause : MessageFault
deriving DecidableEq, Repr

/-- A text after its length. -/
def prefixedText (text : String) : Bytes :=
  let bytes := utf8 text
  Bytes.ofNat 4 bytes.length ++ bytes

namespace Position

/-- Sides above 16 bits are clamped. -/
def encode (p : Position) : Bytes :=
  Bytes.ofNat 4 p.x.toUInt32.toNat ++ Bytes.ofNat 4 p.y.toUInt32.toNat ++
    Bytes.ofNat 2 (min p.width.toNat 0xffff) ++ Bytes.ofNat 2 (min p.height.toNat 0xffff)

def read : FieldReader Position := do
  let x ← FieldReader.i32
  let y ← FieldReader.i32
  let width ← FieldReader.u16
  let height ← FieldReader.u16
  return ⟨x, y, width.toUInt32, height.toUInt32⟩

end Position

namespace ControlMessage

/-! ### Writing -/

def encodeKey (k : KeyEvent) : Bytes :=
  Bytes.ofNat 1 k.action.toNat ++ Bytes.ofNat 4 k.keycode.toNat ++
    Bytes.ofNat 4 k.repeats.toNat ++ Bytes.ofNat 4 k.metastate.toNat

def encodeTouch (t : Touch) : Bytes :=
  Bytes.ofNat 1 t.action.toNat ++ Bytes.ofNat 8 t.pointerId.toNat ++ t.position.encode ++
    Bytes.ofNat 2 t.pressure.toFraction16.toNat ++
    Bytes.ofNat 4 t.actionButton.toNat ++ Bytes.ofNat 4 t.buttons.toNat

def encodeScroll (s : Scroll) : Bytes :=
  s.position.encode ++ Bytes.ofNat 2 s.horizontal.toUInt16.toNat ++
    Bytes.ofNat 2 s.vertical.toUInt16.toNat ++ Bytes.ofNat 4 s.buttons.toNat

/-- A text that is too long is cut. -/
def encodeClipboard (c : ClipboardUpdate) : Bytes :=
  Bytes.ofNat 8 c.sequence.toNat ++ Bytes.ofNat 1 c.paste.toNat ++
    prefixedText (Text.truncate c.text clipboardTextMax)

/-- What follows the tag. Text to be typed is not cut, but refused when it is too long. -/
def body : ControlMessage → Except MessageFault Bytes
  | key k => .ok (encodeKey k)
  | typeText text =>
    if text.utf8ByteSize > typedTextMax then
      .error (.textTooLong text.utf8ByteSize typedTextMax)
    else .ok (prefixedText text)
  | touch t => .ok (encodeTouch t)
  | scroll s => .ok (encodeScroll s)
  | backOrWake action => .ok (Bytes.ofNat 1 action.toNat)
  | fetchClipboard copyKey => .ok (Bytes.ofNat 1 copyKey.code)
  | fillClipboard update => .ok (encodeClipboard update)
  | setPower mode => .ok (Bytes.ofNat 1 mode.toNat)
  | openNotifications | openSettings | closePanels | rotate => .ok []

/-- The tag is written before the length of a text is looked at. -/
def encode (m : ControlMessage) : Except EncodeFailure Bytes :=
  let tag := Bytes.ofNat 1 m.tag
  match m.body with
  | .ok body => .ok (tag ++ body)
  | .error cause => .error ⟨tag, cause⟩

/-- Encodes at the end of a buffer, and says whether it failed. -/
def append (buffer : Bytes) (m : ControlMessage) : Bytes × Option MessageFault :=
  match m.encode with
  | .ok bytes => (buffer ++ bytes, none)
  | .error e => (buffer ++ e.written, some e.cause)

/-! ### Reading -/

def readKey : FieldReader KeyEvent := do
  let action ← FieldReader.u8
  let keycode ← FieldReader.u32
  let repeats ← FieldReader.u32
  let metastate ← FieldReader.u32
  return { action, keycode, repeats, metastate }

def readTouch : FieldReader Touch := do
  let action ← FieldReader.u8
  let pointerId ← FieldReader.u64
  let position ← Position.read
  let pressure ← FieldReader.u16
  let actionButton ← FieldReader.u32
  let buttons ← FieldReader.u32
  return ⟨action, pointerId, position, .ofFraction16 pressure, actionButton, buttons⟩

def readScroll : FieldReader Scroll := do
  let position ← Position.read
  let horizontal ← FieldReader.i16
  let vertical ← FieldReader.i16
  let buttons ← FieldReader.u32
  return ⟨position, horizontal, vertical, buttons⟩

def readCopyKey : FieldReader CopyKey := do
  let code ← FieldReader.word 1
  match CopyKey.ofCode? code with
  | some k => return k
  | none => throw (.malformed (.invalidCopyKey code))

def readClipboard : FieldReader ClipboardUpdate := do
  let sequence ← FieldReader.u64
  let paste ← FieldReader.word 1
  let text ← FieldReader.prefixedText
  return ⟨sequence, paste != 0, text⟩

/-- The length of the message at the front of a buffer, as soon as it is known. -/
def frameLength (buffer : Bytes) : Except MessageFault (Option Nat) :=
  match buffer with
  | [] => .ok none
  | tag :: _ =>
    match tag.toNat with
    | 0 => .ok (some 14)
    | 1 => textFrameLength 1 typedTextMax buffer
    | 2 => .ok (some 32)
    | 3 => .ok (some 21)
    | 4 | 8 | 10 => .ok (some 2)
    | 5 | 6 | 7 | 11 => .ok (some 1)
    | 9 => textFrameLength 10 clipboardTextMax buffer
    | tag => .error (.unknownMessageType tag)

def fields : FieldReader ControlMessage := do
  match ← FieldReader.word 1 with
  | 0 => return .key (← readKey)
  | 1 => return .typeText (← FieldReader.prefixedText)
  | 2 => return .touch (← readTouch)
  | 3 => return .scroll (← readScroll)
  | 4 => return .backOrWake (← FieldReader.u8)
  | 5 => return .openNotifications
  | 6 => return .openSettings
  | 7 => return .closePanels
  | 8 => return .fetchClipboard (← readCopyKey)
  | 9 => return .fillClipboard (← readClipboard)
  | 10 => return .setPower (← FieldReader.u8)
  | 11 => return .rotate
  | tag => throw (.malformed (.unknownMessageType tag))

def decode (buffer : Bytes) : Decoded ControlMessage := decodeFrame frameLength fields buffer

end ControlMessage

namespace DeviceMessage

/-- A text that is too long is cut, so encoding cannot fail. -/
def encode (m : DeviceMessage) : Bytes :=
  Bytes.ofNat 1 m.tag ++ match m with
    | clipboard text => prefixedText (Text.truncate text deviceClipboardTextMax)
    | ack sequence => Bytes.ofNat 8 sequence.toNat

def frameLength (buffer : Bytes) : Except MessageFault (Option Nat) :=
  match buffer with
  | [] => .ok none
  | tag :: _ =>
    match tag.toNat with
    | 0 => textFrameLength 1 deviceClipboardTextMax buffer
    | 1 => .ok (some 9)
    | tag => .error (.unknownMessageType tag)

def fields : FieldReader DeviceMessage := do
  match ← FieldReader.word 1 with
  | 0 => return .clipboard (← FieldReader.prefixedText)
  | _ => return .ack (← FieldReader.u64)

def decode (buffer : Bytes) : Decoded DeviceMessage := decodeFrame frameLength fields buffer

end DeviceMessage

end Screencast
