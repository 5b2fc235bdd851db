/-!
Cutting a text to a number of UTF-8 bytes without splitting a character.
-/

namespace Screencast.Text

/-- How many of the leading characters fit into `room` bytes, counted on from `count`. -/
def fitting : Nat → List Char → Nat → Nat
  | _, [], count => count
  | room, c :: cs, count =>
    if c.utf8Size ≤ room then fitting (room - c.utf8Size) cs (count + 1) else count

/-- The longest prefix of whole characters that takes at most `max` bytes. -/
def truncate (text : String) (max : Nat) : String :=
  if text.utf8ByteSize ≤ max then text
  else String.ofList (text.toList.take (fitting max text.toList 0))

end Screencast.Text
