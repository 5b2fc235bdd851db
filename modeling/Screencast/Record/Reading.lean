import Screencast.Record.Value

/-!
Reading records. What cannot be read is reported by the name of its field. An absent entry is the
same as `null`. Texts may be given in parts, and a part together with how often it is repeated;
bytes are such texts in hexadecimal; integers may be decimal texts.
-/

namespace Screencast

abbrev Reading := Except String

namespace Value

def get? (v : Value) (key : String) : Option Value :=
  match v with
  | table entries => match entries.lookup key with
    | some null | none => none
    | some value => some value
  | _ => none

/-! ### Values by themselves -/

def bool? : Value → Option Bool
  | bool b => some b
  | _ => none

def int? : Value → Option Int
  | int n => some n
  | text s => Text.integer? 0x10000000000000000 0x10000000000000000 s
  | _ => none

def list? : Value → Option (List Value)
  | list items => some items
  | _ => none

/-- A natural number of so many bits. -/
def nat? (bits : Nat) (v : Value) : Option Nat :=
  (v.int?.filter fun n => 0 ≤ n && n.toNat < 1 <<< bits).map Int.toNat

/-- A signed number of so many bits. -/
def signed? (bits : Nat) (v : Value) : Option Int :=
  v.int?.filter fun n => -(1 <<< (bits - 1) : Nat) ≤ n && n < (1 <<< (bits - 1) : Nat)

def part? : Value → Option String
  | text s => some s
  | v => do
    let text s ← v.get? "r" | none
    let n ← (v.get? "n").bind (nat? 64)
    return String.join (List.replicate n s)

def text? : Value → Option String
  | list parts => (parts.mapM part?).map String.join
  | v => v.part?

def hexDigit? (c : Char) : Option Nat :=
  if c.isDigit then some (c.toNat - '0'.toNat)
  else if 'a' ≤ c && c ≤ 'f' then some (c.toNat - 'a'.toNat + 10)
  else none

/-- Two digits a byte, put behind the bytes read so far, which stand in reverse. -/
def hexFrom (before : Bytes) : List Char → Option Bytes
  | [] => some before.reverse
  | high :: low :: rest =>
    match hexDigit? high, hexDigit? low with
    | some h, some l => hexFrom (UInt8.ofNat (16 * h + l) :: before) rest
    | _, _ => none
  | [_] => none

def bytes? : Value → Option Bytes
  | bytes b => some b
  | v => v.text?.bind fun s => hexFrom [] s.toList

/-! ### Fields -/

def read {α : Type} (f : Value → Option α) (v : Value) (key : String) : Reading α :=
  match (v.get? key).bind f with
  | some a => .ok a
  | none => .error key

def read? {α : Type} (f : Value → Option α) (v : Value) (key : String) : Reading (Option α) :=
  match v.get? key with
  | none => .ok none
  | some value => match f value with
    | some a => .ok (some a)
    | none => .error key

/-- A field that is itself a record. -/
def nested {α : Type} (f : Value → Reading α) (v : Value) (key : String) : Reading α :=
  match v.get? key with
  | some value => f value
  | none => .error key

/-- The records in a list; no list is an empty one. -/
def each {α : Type} (f : Value → Reading α) (v : Value) (key : String) : Reading (List α) := do
  let items ← v.read? list? key
  (items.getD []).mapM f

def nat (bits : Nat) (v : Value) (key : String) : Reading Nat := v.read (nat? bits) key

def natOr (default bits : Nat) (v : Value) (key : String) : Reading Nat :=
  (·.getD default) <$> v.read? (nat? bits) key

def signed (bits : Nat) (v : Value) (key : String) : Reading Int := v.read (signed? bits) key

def string (v : Value) (key : String) : Reading String := v.read text? key

def stringOr (default : String) (v : Value) (key : String) : Reading String :=
  (·.getD default) <$> v.read? text? key

def data (v : Value) (key : String) : Reading Bytes := v.read bytes? key

def flag (v : Value) (key : String) : Reading Bool := v.read bool? key

def flagOr (default : Bool) (v : Value) (key : String) : Reading Bool :=
  (·.getD default) <$> v.read? bool? key

/-- One of several things by its name. -/
def named {α : Type} (names : List (String × α)) (v : Value) (key : String) : Reading α := do
  let name ← v.string key
  match names.lookup name with
  | some a => .ok a
  | none => .error key

/-- The name that a thing has among these. -/
def nameIn {α : Type} [DecidableEq α] (names : List (String × α)) (a : α) : String :=
  ((names.find? fun entry => entry.2 = a).map Prod.fst).getD ""

end Value

end Screencast
