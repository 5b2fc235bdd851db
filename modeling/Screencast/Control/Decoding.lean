import Screencast.Bytes
import Screencast.Error

/-!
Decoding of messages from a buffer that grows at its end: what one attempt gives, the messages that
a buffer holds, and the fields of a message.
-/

namespace Screencast

/-- What the front of a buffer holds, and what is left after it. -/
inductive Decoded (μ : Type) where
  | incomplete
  | message (m : μ) (rest : Bytes)
  | malformed (e : MessageFault) (rest : Bytes)
  /-- A field reached past the end of its message. -/
  | overrun
deriving Repr

/-- Why no further message was taken from a buffer. -/
inductive Halt where
  | incomplete
  | malformed (e : MessageFault)
  | overrun
deriving DecidableEq, Repr, Inhabited

structure Drained (μ : Type) where
  messages : List μ
  halt : Halt
  rest : Bytes
deriving Repr

namespace Decoded

variable {μ : Type} (decode : Bytes → Decoded μ)

def drainFrom : Nat → List μ → Bytes → Drained μ
  | 0, taken, buffer => ⟨taken.reverse, .incomplete, buffer⟩
  | n + 1, taken, buffer =>
    match decode buffer with
    | .incomplete => ⟨taken.reverse, .incomplete, buffer⟩
    | .message m rest => drainFrom n (m :: taken) rest
    | .malformed e rest => ⟨taken.reverse, .malformed e, rest⟩
    | .overrun => ⟨taken.reverse, .overrun, buffer⟩

/-- Takes messages until none is complete or one is malformed. Each takes a byte or more. -/
def drain (buffer : Bytes) : Drained μ := drainFrom decode (buffer.length + 1) [] buffer

end Decoded

/-- A stream that ends inside a message. -/
def IoError.bytesRemaining : IoError := ⟨.other, some "bytes remaining on stream"⟩

/-- Why the fields of a message could not be read. -/
inductive FieldFault where
  | overrun
  | malformed (e : MessageFault)
deriving DecidableEq, Repr

/-- Reads fields from the front of a message. -/
abbrev FieldReader := StateT Bytes (Except FieldFault)

namespace FieldReader

def bytes (n : Nat) : FieldReader Bytes := fun buffer =>
  match buffer.split? n with
  | some (front, rest) => .ok (front, rest)
  | none => .error .overrun

def word (width : Nat) : FieldReader Nat := do return Bytes.toNat (← bytes width)

def u8 : FieldReader UInt8 := do return UInt8.ofNat (← word 1)

def u16 : FieldReader UInt16 := do return UInt16.ofNat (← word 2)

def u32 : FieldReader UInt32 := do return UInt32.ofNat (← word 4)

def u64 : FieldReader UInt64 := do return UInt64.ofNat (← word 8)

def i16 : FieldReader Int16 := do return (← u16).toInt16

def i32 : FieldReader Int32 := do return (← u32).toInt32

/-- A text of this many bytes. -/
def text (length : Nat) : FieldReader String := do
  match utf8? (← bytes length) with
  | some text => return text
  | none => throw (.malformed .invalidUtf8)

/-- A text after its length. -/
def prefixedText : FieldReader String := do text (← word 4)

end FieldReader

/-- The length of a message that ends with a text of at most `max` bytes, whose own length stands
at `offset`; nothing as long as that is not there. -/
def textFrameLength (offset max : Nat) (buffer : Bytes) : Except MessageFault (Option Nat) :=
  let field := (buffer.drop offset).take 4
  if field.length < 4 then .ok none
  else
    let length := Bytes.toNat field
    if length > max then .error (.textTooLong length max)
    else .ok (some (offset + 4 + length))

/-- Splits off a message of known length once it is complete, then reads its fields. -/
def decodeFrame {μ : Type} (length : Bytes → Except MessageFault (Option Nat))
    (fields : FieldReader μ) (buffer : Bytes) : Decoded μ :=
  match length buffer with
  | .error e => .malformed e buffer
  | .ok none => .incomplete
  | .ok (some n) =>
    match buffer.split? n with
    | none => .incomplete
    | some (frame, rest) =>
      match fields.run frame with
      | .ok (m, _) => .message m rest
      | .error (.malformed e) => .malformed e rest
      | .error .overrun => .overrun

end Screencast
