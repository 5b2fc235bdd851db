import Screencast.Record.Value

/-!
Tables as they grow while a document is read. A table may be opened once by a header, unless dotted
keys made it; dotted keys do not reach into a table that has a header. What is written as a value
cannot grow any more.
-/

namespace Screencast.Toml

/-- How a table came into being. -/
inductive Origin where
  /-- By its own header, or as the whole document. -/
  | header
  /-- On the way to a table further down. -/
  | path
  | dottedKey
deriving DecidableEq, Repr, Inhabited

inductive Node where
  | leaf (v : Value)
  | table (origin : Origin) (entries : List (String × Node))
  /-- An array of tables, the newest first. -/
  | tables (elements : List (List (String × Node)))

abbrev Entries := List (String × Node)

/-- Puts something else in the place of what stands under a key, if anything does. -/
def change (key : String) (f : Option Node → Option Node) : Entries → Option Entries
  | [] => (f none).map fun node => [(key, node)]
  | (k, node) :: rest =>
    if k = key then (f (some node)).map fun node => (k, node) :: rest
    else (change key f rest).map ((k, node) :: ·)

/-- Changes the table that a path leads to; tables on the way are made as needed. In an array of
tables the way goes through the newest. -/
def within (dotted : Bool) (f : Origin → Entries → Option Entries) (origin : Origin) :
    List String → Entries → Option Entries
  | [], entries => f origin entries
  | key :: path, entries => change key (fun
      | none =>
        let origin : Origin := if dotted then .dottedKey else .path
        (within dotted f origin path []).map (.table origin)
      | some (.leaf _) => none
      | some (.table origin inner) =>
        if dotted && origin = .header then none
        else (within dotted f origin path inner).map (.table origin)
      | some (.tables []) => none
      | some (.tables (newest :: older)) =>
        (within dotted f .header path newest).map fun newest => .tables (newest :: older))
    entries

/-- Puts a value under a dotted key, inside a table of this origin. -/
def put (path : List String) (key : String) (v : Value) (origin : Origin) (entries : Entries) :
    Option Entries :=
  within true (fun origin entries =>
    if (origin = .dottedKey : Bool) = path.isEmpty then none
    else change key (fun
      | none => some (.leaf v)
      | some _ => none) entries) origin path entries

/-- Opens a table by its header. -/
def openTable (path : List String) (key : String) (root : Entries) : Option Entries :=
  within false (fun _ => change key fun
    | none => some (.table .header [])
    | some (.table .path entries) => some (.table .header entries)
    | some _ => none) .header path root

/-- Adds a table to an array of tables. -/
def openElement (path : List String) (key : String) (root : Entries) : Option Entries :=
  within false (fun _ => change key fun
    | none => some (.tables [[]])
    | some (.tables elements) => some (.tables ([] :: elements))
    | some _ => none) .header path root

mutual

def Node.value : Node → Value
  | .leaf v => v
  | .table _ entries => .table (valuesOf entries)
  | .tables elements => .list (elementsOf elements).reverse

def valuesOf : List (String × Node) → List (String × Value)
  | [] => []
  | (key, node) :: rest => (key, node.value) :: valuesOf rest

def elementsOf : List (List (String × Node)) → List Value
  | [] => []
  | entries :: rest => .table (valuesOf entries) :: elementsOf rest

end

end Screencast.Toml
