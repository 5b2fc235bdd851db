/-!
What can go wrong in a session. Every constructor is a cause; `Error.message` words it. An error
is a disconnection when the desktop went away, and fatal when it has to end the whole session.
-/

namespace Screencast

/-- The kind of a failed read, write or connection attempt. -/
inductive IoKind where
  | brokenPipe
  | connectionReset
  | unexpectedEof
  | connectionAborted
  | connectionRefused
  | notConnected
  | writeZero
  | timedOut
  | interrupted
  | invalidData
  | notFound
  | addressInUse
  | isADirectory
  | other
deriving DecidableEq, Repr, Inhabited

def IoKind.text : IoKind → String
  | brokenPipe => "broken pipe"
  | connectionReset => "connection reset"
  | unexpectedEof => "unexpected end of file"
  | connectionAborted => "connection aborted"
  | connectionRefused => "connection refused"
  | notConnected => "not connected"
  | writeZero => "write zero"
  | timedOut => "timed out"
  | interrupted => "operation interrupted"
  | invalidData => "invalid data"
  | notFound => "entity not found"
  | addressInUse => "address in use"
  | isADirectory => "is a directory"
  | other => "other error"

structure IoError where
  kind : IoKind
  detail : Option String := none
deriving DecidableEq, Repr, Inhabited

def IoError.message (e : IoError) : String := e.detail.getD e.kind.text

/-- The peer closed its end, by whatever name the system reports it. -/
def IoError.isDisconnect (e : IoError) : Bool :=
  match e.kind with
  | .brokenPipe | .connectionReset | .unexpectedEof => true
  | _ => false

/-- What an encoder reports. A rejected configuration may succeed at a smaller size. -/
inductive EncoderError where
  | rejected (reason : String)
  | unsupported (format : String)
  | invalidBuffer (index : Nat)
  | io (e : IoError)
deriving DecidableEq, Repr, Inhabited

def EncoderError.message : EncoderError → String
  | rejected reason => s!"configuration rejected: {reason}"
  | unsupported format => s!"unsupported format: {format}"
  | invalidBuffer index => s!"invalid buffer index {index}"
  | io e => s!"encoder I/O: {e.message}"

/-- A message on the control channel that does not follow the wire format. -/
inductive MessageFault where
  | unknownMessageType (tag : Nat)
  | textTooLong (length max : Nat)
  | invalidUtf8
  | invalidCopyKey (value : Nat)
deriving DecidableEq, Repr, Inhabited

def MessageFault.message : MessageFault → String
  | unknownMessageType tag => s!"unknown control message type: {tag}"
  | textTooLong length max => s!"text field too long: {length} bytes (max {max})"
  | invalidUtf8 => "invalid utf-8 in text field"
  | invalidCopyKey value => s!"invalid copy key: {value}"

/-- The reading side of a socket reports malformed messages as invalid data. -/
def MessageFault.toIo (e : MessageFault) : IoError := ⟨.invalidData, some e.message⟩

/-- Why one `key[:type]=value` item cannot be read. -/
inductive OptionFault where
  | missingEquals
  | emptyKey
  | notAnInt
  | notALong
  | notAFloat
  | unknownType
deriving DecidableEq, Repr, Inhabited

def OptionFault.text : OptionFault → String
  | missingEquals => "missing '='"
  | emptyKey => "empty key"
  | notAnInt => "not an int"
  | notALong => "not a long"
  | notAFloat => "not a float"
  | unknownType => "type must be int, long, float or string"

/-- A setting, or a use of the pipeline, that cannot work. -/
inductive Misconfiguration where
  | unknownVideoCodec (name : String)
  | unknownAudioCodec (name : String)
  | codecOption (item : String) (fault : OptionFault)
  | crop (text : String)
  | bitRate (stream : String) (value : Nat)
  | lockOrientation (text : String)
  | everyChannelDisabled
  | noDisplay (id : Nat)
  | encoderCreation (mime : String) (e : EncoderError)
  | packetBeforeHeader
  | oversizedAacFrame (length : Nat)
  | noChannelForDeviceMeta
  | other (detail : String)
deriving DecidableEq, Repr, Inhabited

def Misconfiguration.message : Misconfiguration → String
  | unknownVideoCodec name => s!"unknown video codec: {name}"
  | unknownAudioCodec name => s!"unknown audio codec: {name}"
  | codecOption item fault => s!"invalid codec option '{item}': {fault.text}"
  | crop text => s!"crop must be width:height:x:y, got '{text}'"
  | bitRate stream value => s!"{stream} bit rate must be at most 2147483647, got {value}"
  | lockOrientation text => s!"lock orientation must be unlocked, initial or 0..3, got '{text}'"
  | everyChannelDisabled => "every channel is disabled"
  | noDisplay id => s!"display {id} does not exist"
  | encoderCreation mime e => s!"could not create {mime} encoder: {e.message}"
  | packetBeforeHeader => "access unit written before the stream header"
  | oversizedAacFrame length => s!"AAC frame of {length} bytes"
  | noChannelForDeviceMeta => "no channel to send the device meta on"
  | other detail => detail

inductive Error where
  | configuration (cause : Misconfiguration)
  | invalidEncoder (name : String) (available : List String)
  | unsupported (capability : String)
  | codec (e : EncoderError)
  | fallbackExhausted (lastMaxSize : Nat)
  | protocol (e : MessageFault)
  | io (e : IoError)
  | channelClosed
  | sessionFailed
deriving DecidableEq, Repr, Inhabited

namespace Error

def message : Error → String
  | configuration cause => s!"configuration error: {cause.message}"
  | invalidEncoder name available =>
    let list := String.intercalate ", " available
    s!"unknown encoder '{name}' (available: {list})"
  | unsupported capability => s!"unsupported on this platform: {capability}"
  | codec e => s!"encoder error: {e.message}"
  | fallbackExhausted last => s!"encoder rejected every candidate size (last: {last})"
  | protocol e => s!"protocol error: {e.message}"
  | io e => s!"connection error: {e.message}"
  | channelClosed => "channel closed"
  | sessionFailed => "mirroring session failed"

/-- The ordinary way a session ends: the desktop closed its end. -/
def isDisconnect : Error → Bool
  | io e | codec (.io e) => e.isDisconnect
  | _ => false

/-- A missing capability ends its own stream only, and so does a disconnection. -/
def isFatal : Error → Bool
  | unsupported _ => false
  | e => !e.isDisconnect

end Error

end Screencast
