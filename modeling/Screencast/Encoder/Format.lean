import Screencast.Geometry.Basic
import Screencast.Options.CodecOption

/-!
The configuration of an encoder: values by key, in the order in which the keys were first set.
Setting a key again replaces its value in place.
-/

namespace Screencast

structure EncoderFormat where
  entries : List (String × OptionValue) := []
deriving DecidableEq, Repr, Inhabited

namespace EncoderFormat

def get? (f : EncoderFormat) (key : String) : Option OptionValue := f.entries.lookup key

def setEntry (key : String) (value : OptionValue) :
    List (String × OptionValue) → List (String × OptionValue)
  | [] => [(key, value)]
  | (k, v) :: rest => if k = key then (k, value) :: rest else (k, v) :: setEntry key value rest

def set (f : EncoderFormat) (key : String) (value : OptionValue) : EncoderFormat :=
  ⟨setEntry key value f.entries⟩

def int? (f : EncoderFormat) (key : String) : Option Int :=
  match f.get? key with
  | some (.int n) => some n
  | _ => none

def ofMime (mime : String) : EncoderFormat := EncoderFormat.set {} "mime" (.string mime)

/-- The options of the user come last, in their order. -/
def withOptions (f : EncoderFormat) (options : List CodecOption) : EncoderFormat :=
  options.foldl (fun f o => f.set o.key o.value) f

/-- Bit rates beyond a signed 32-bit word are brought down to the largest. -/
def clampedBitRate (bitRate : Nat) : OptionValue := .int (min bitRate 2147483647 : Nat)

/-- Sixty frames a second, a key frame every ten seconds, and a picture repeated after 100 ms
without a change. A frame rate of 0 sets no limit. -/
def video (mime : String) (bitRate maxFps : Nat) (options : List CodecOption) : EncoderFormat :=
  let base := (ofMime mime).set "bitrate" (clampedBitRate bitRate)
    |>.set "frame-rate" (.int 60)
    |>.set "i-frame-interval" (.int 10)
    |>.set "repeat-previous-frame-after" (.long 100000)
  let base := if maxFps = 0 then base else base.set "max-fps-to-encoder" (.float (.ofNat maxFps))
  base.withOptions options

def audio (mime : String) (bitRate sampleRate channels : Nat) (options : List CodecOption) :
    EncoderFormat :=
  let base := (ofMime mime).set "bitrate" (clampedBitRate bitRate)
    |>.set "channel-count" (.int channels)
    |>.set "sample-rate" (.int (signed32 sampleRate))
  base.withOptions options

def withSize (f : EncoderFormat) (size : Size) : EncoderFormat :=
  (f.set "width" (.int (signed32 size.width))).set "height" (.int (signed32 size.height))

/-- The picture size, once both sides are set as ints. -/
def size? (f : EncoderFormat) : Option Size :=
  match f.int? "width", f.int? "height" with
  | some w, some h => some ⟨w.toNat, h.toNat⟩
  | _, _ => none

end EncoderFormat

end Screencast
