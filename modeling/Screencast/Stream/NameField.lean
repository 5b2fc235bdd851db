import Screencast.Bytes
import Screencast.Text.Truncate

/-!
The first bytes of a session: the device name in a field of 64 bytes, padded with at least one NUL.
-/

namespace Screencast

def nameFieldSize : Nat := 64

def nameField (name : String) : Bytes :=
  let bytes := utf8 (Text.truncate name (nameFieldSize - 1))
  bytes ++ List.replicate (nameFieldSize - bytes.length) 0

end Screencast
