import Screencast.Binary32.Basic

/-!
Sixteen bit fractions of one: code `n` stands for `n / 65536`, except that the largest code stands
for one itself.
-/

namespace Screencast.Binary32

def ofFraction16 (code : UInt16) : Binary32 :=
  if code.toNat = 65535 then one else nearest false code.toNat 65536

/-- One and above get the largest code, zero and below the smallest, and so does a NaN. All else
is cut down to a multiple of `1 / 65536`. -/
def toFraction16 (x : Binary32) : UInt16 :=
  if x.isNaN || x.isNegative then 0
  else if x.magnitude ≥ one.magnitude then 65535
  else UInt16.ofNat (x.mantissa >>> (-x.exponent - 16).toNat)

end Screencast.Binary32
