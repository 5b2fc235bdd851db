import Screencast.Error
import Screencast.Record.Reading

/-!
Records of errors: the name of the kind of error, and the message.
-/

namespace Screencast

def IoKind.names : List (String × IoKind) :=
  [ ("BrokenPipe", brokenPipe), ("ConnectionReset", connectionReset)
  , ("UnexpectedEof", unexpectedEof), ("ConnectionAborted", connectionAborted)
  , ("ConnectionRefused", connectionRefused), ("NotConnected", notConnected)
  , ("WriteZero", writeZero), ("TimedOut", timedOut), ("Interrupted", interrupted)
  , ("InvalidData", invalidData), ("NotFound", notFound), ("AddrInUse", addressInUse)
  , ("IsADirectory", isADirectory), ("Other", other) ]

def IoKind.name (k : IoKind) : String := Value.nameIn names k

def EncoderError.kind : EncoderError → String
  | rejected _ => "Rejected"
  | unsupported _ => "Unsupported"
  | invalidBuffer _ => "InvalidBuffer"
  | io e => "Io." ++ e.kind.name

def MessageFault.kind : MessageFault → String
  | unknownMessageType _ => "UnknownMessageType"
  | textTooLong .. => "TextTooLong"
  | invalidUtf8 => "InvalidUtf8"
  | invalidCopyKey _ => "InvalidField"

def Error.kind : Error → String
  | configuration _ => "Configuration"
  | invalidEncoder .. => "InvalidEncoder"
  | unsupported _ => "Unsupported"
  | codec e => "Codec." ++ e.kind
  | fallbackExhausted _ => "FallbackExhausted"
  | protocol e => "Protocol." ++ e.kind
  | io e => "Io." ++ e.kind.name
  | channelClosed => "ChannelClosed"
  | sessionFailed => "SessionFailed"

def Error.entries (e : Error) : List (String × Value) :=
  [("error", record e.kind), ("message", record e.message)]

instance : Recorded Error := ⟨fun e => .table e.entries⟩

instance {α : Type} [Recorded α] : Recorded (Except Error α) := ⟨fun
  | .ok a => record a
  | .error e => record e⟩

namespace Value

def ioError (v : Value) : Reading IoError := do
  return ⟨← v.named IoKind.names "io", ← v.read? text? "msg"⟩

def encoderError (v : Value) : Reading EncoderError := do
  match ← v.string "kind" with
  | "Codec.Rejected" => return .rejected (← v.string "msg")
  | "Codec.Unsupported" => return .unsupported (← v.string "msg")
  | "Codec.InvalidBuffer" => return .invalidBuffer (← v.nat 64 "index")
  | "Codec.Io" => return .io (← v.ioError)
  | _ => throw "kind"

def messageFault (v : Value) : Reading MessageFault := do
  match ← v.string "kind" with
  | "Protocol.UnknownMessageType" => return .unknownMessageType (← v.nat 8 "value")
  | "Protocol.TextTooLong" => return .textTooLong (← v.nat 64 "len") (← v.nat 64 "max")
  | "Protocol.InvalidUtf8" => return .invalidUtf8
  | "Protocol.InvalidField" => return .invalidCopyKey (← v.nat 64 "value")
  | _ => throw "kind"

def error (v : Value) : Reading Error := do
  let kind ← v.string "kind"
  match kind with
  | "Configuration" => return .configuration (.other (← v.string "msg"))
  | "InvalidEncoder" =>
    let available ← v.read (fun a => a.list?.bind fun items => items.mapM text?) "available"
    return .invalidEncoder (← v.string "name") available
  | "Unsupported" => return .unsupported (← v.string "msg")
  | "FallbackExhausted" => return .fallbackExhausted (← v.nat 32 "size")
  | "Io" => return .io (← v.ioError)
  | "ChannelClosed" => return .channelClosed
  | "SessionFailed" => return .sessionFailed
  | _ =>
    if "Codec.".isPrefixOf kind then return .codec (← v.encoderError)
    else return .protocol (← v.messageFault)

end Value

end Screencast
