import Screencast.Bytes
import Screencast.Text.Integer

/-!
Data without a schema: what configuration files hold, and what the records of a session are made
of. A type that is `Recorded` says how its values stand in a record.
-/

namespace Screencast

inductive Value where
  | null
  | bool (b : Bool)
  | int (n : Int)
  | text (s : String)
  /-- A number that is no integer, as it was written. -/
  | other (written : String)
  /-- A date, a time, or both, as it was written. -/
  | moment (written : String)
  | bytes (b : Bytes)
  | list (items : List Value)
  | table (entries : List (String × Value))
deriving Repr, Inhabited

namespace Value

/-- Empty values say nothing. -/
def isEmpty : Value → Bool
  | null | text "" | bytes [] | list [] => true
  | _ => false

def nonEmpty (entries : List (String × Value)) : List (String × Value) :=
  entries.filter fun entry => !entry.2.isEmpty

/-- A table without its empty entries. -/
def sparse (entries : List (String × Value)) : Value := table (nonEmpty entries)

/-- Readers of records may not keep integers of 64 bits, so these stand as decimal text. -/
def wide (n : Int) : Value := text (toString n)

end Value

class Recorded (α : Type) where
  record : α → Value

export Recorded (record)

instance : Recorded Value := ⟨id⟩

instance : Recorded Bool := ⟨.bool⟩

instance : Recorded Nat := ⟨fun n => .int n⟩

instance : Recorded Int := ⟨.int⟩

instance : Recorded String := ⟨.text⟩

instance : Recorded Bytes := ⟨.bytes⟩

instance : Recorded Unit := ⟨fun () => .null⟩

instance {α : Type} [Recorded α] : Recorded (List α) := ⟨fun xs => .list (xs.map record)⟩

instance {α : Type} [Recorded α] : Recorded (Option α) := ⟨fun x => (x.map record).getD .null⟩

end Screencast
