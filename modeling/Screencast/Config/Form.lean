import Screencast.Record.Value

/-!
How types stand in a configuration. A `Form` writes and reads one type; a type with fields is a
table, read field by field over its defaults.
-/

namespace Screencast

/-- What the formats of a configuration differ in. -/
structure Dialect where
  /-- Fields given as a list may not be followed by more. -/
  closesLists : Bool
  /-- What stands for nothing under the name of a choice. -/
  isUnit : Value → Bool
  /-- The entries of what counts as a table. -/
  entries? : Value → Option (List (String × Value))

namespace Dialect

def json : Dialect where
  closesLists := true
  isUnit
    | .null => true
    | _ => false
  entries?
    | .table entries => some entries
    | _ => none

/-- A date counts as a table, of which no entry is anything that could be looked for. -/
def toml : Dialect where
  closesLists := false
  isUnit
    | .table [] | .list [] => true
    | _ => false
  entries?
    | .table entries => some entries
    | .moment _ => some []
    | _ => none

end Dialect

structure Form (α : Type) where
  write : α → Value
  read? : Dialect → Value → Option α

/-- A field of a table; reading it replaces what the table has there. -/
structure Field (σ : Type) where
  key : String
  write : σ → Value
  read? : Dialect → Value → σ → Option σ

namespace Form

def flag : Form Bool where
  write := .bool
  read? _
    | .bool b => some b
    | _ => none

/-- A natural number of so many bits. -/
def word (bits : Nat) : Form Nat where
  write n := .int n
  read? _
    | .int n => if 0 ≤ n && n.toNat < 1 <<< bits then some n.toNat else none
    | _ => none

def text : Form String where
  write := .text
  read? _
    | .text s => some s
    | _ => none

/-- One of several choices: its name, or a table with nothing but nothing under its name. -/
def choice {α : Type} (name : α → String) (choices : List α) : Form α where
  write a := .text (name a)
  read? d
    | .text s => choices.find? fun a => name a = s
    | .table [(s, payload)] => if d.isUnit payload then choices.find? fun a => name a = s else none
    | _ => none

def field {α σ : Type} (form : Form α) (key : String) (get : σ → α) (set : σ → α → σ) :
    Field σ where
  key
  write s := form.write (get s)
  read? d v s := (form.read? d v).map (set s)

/-- A table by its fields, or a list of their values in order. What is absent keeps its default, and
entries that are no fields are ignored. -/
def table {σ : Type} (default : σ) (fields : List (Field σ)) : Form σ where
  write s := .table (fields.map fun f => (f.key, f.write s))
  read? d
    | .list items =>
      if d.closesLists && fields.length < items.length then none
      else (fields.zip items).foldlM (fun s (f, v) => f.read? d v s) default
    | v => do
      let entries ← d.entries? v
      fields.foldlM (fun s f =>
        (entries.lookup f.key).elim (some s) fun v => f.read? d v s) default

end Form

end Screencast
