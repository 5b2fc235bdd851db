import Screencast.Error
import Screencast.Binary32.Decimal
import Screencast.Text.Blank
import Screencast.Text.Fields

/-!
Free-form encoder options, written `key[:type]=value` and listed with commas between them. A
backslash takes the special meaning from the character after it.
-/

namespace Screencast

inductive OptionValue where
  | int (n : Int)
  | long (n : Int)
  | float (x : Binary32)
  | string (s : String)
deriving DecidableEq, Repr, Inhabited

def OptionValue.text : OptionValue → String
  | int n => s!"{n} (int)"
  | long n => s!"{n} (long)"
  | float x => x.text ++ " (float)"
  | string s => s ++ " (string)"

structure CodecOption where
  key : String
  value : OptionValue
deriving DecidableEq, Repr, Inhabited

namespace CodecOption

/-- A value of the named type. -/
def readValue (type value : String) : Except OptionFault OptionValue :=
  match type with
  | "int" => match Text.int32? value with
    | some n => .ok (.int n)
    | none => .error .notAnInt
  | "long" => match Text.int64? value with
    | some n => .ok (.long n)
    | none => .error .notALong
  | "float" => match Binary32.parse? value with
    | some x => .ok (.float x)
    | none => .error .notAFloat
  | "string" => .ok (.string value)
  | _ => .error .unknownType

/-- The first equals sign ends the left side, the first colon of the left side ends the key. A
missing type means `int`. -/
def read (item : String) : Except OptionFault CodecOption := do
  let some (left, value) := Text.cut? '=' item.toList | throw .missingEquals
  let (key, type) := (Text.cut? ':' left).getD (left, ['i', 'n', 't'])
  if key.isEmpty then throw .emptyKey
  let value ← readValue (String.ofList type) (String.ofList value)
  return ⟨String.ofList key, value⟩

def parse (item : String) : Except Error CodecOption :=
  match read item with
  | .ok option => .ok option
  | .error fault => .error (.configuration (.codecOption item fault))

/-- The items between unescaped commas, without the backslashes that escape. -/
def itemsFrom (current : List Char) (escaped : Bool) : List Char → List (List Char)
  | [] => [current.reverse]
  | c :: cs =>
    if c == '\\' && !escaped then itemsFrom current true cs
    else if c == ',' && !escaped then current.reverse :: itemsFrom [] false cs
    else itemsFrom (c :: current) false cs

def items (text : String) : List (List Char) := itemsFrom [] false text.toList

/-- White space around an item is dropped, and blank items are skipped. -/
def parseAll (text : String) : Except Error (List CodecOption) :=
  let trimmed := (items text).map Text.trimChars
  (trimmed.filter fun item => !item.isEmpty).mapM fun item => parse (String.ofList item)

end CodecOption

end Screencast
