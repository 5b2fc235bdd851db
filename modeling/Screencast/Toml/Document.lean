import Screencast.Toml.Quoted
import Screencast.Toml.Scalar
import Screencast.Toml.Tree

/-!
TOML documents: values, keys, and the lines of a document. A document is read as a whole or not at
all.
-/

namespace Screencast.Toml

/-- Keys have fewer parts than this, and values are nested less deep. -/
def maxDepth : Nat := 80

/-! ### Keys -/

def isBareKeyChar (c : Char) : Bool :=
  c.isDigit || ('a' ≤ c && c ≤ 'z') || ('A' ≤ c && c ≤ 'Z') || c == '-' || c == '_'

def simpleKey : Scan String := do
  match ← Scan.takeWhile isBareKeyChar with
  | [] => shortString
  | key => return String.ofList key

/-- Up to `n` parts of a key behind its first one. -/
def keyParts : Nat → Scan (List String)
  | 0 => pure []
  | n + 1 => do
    spaces
    if ← Scan.beginsWith "." then
      Scan.drop 1
      spaces
      let part ← simpleKey
      return part :: (← keyParts n)
    else pure []

/-- A dotted key: all parts but the last, and the last. -/
def key : Scan (List String × String) := do
  spaces
  let first ← simpleKey
  let parts := first :: (← keyParts maxDepth)
  guard (parts.length < maxDepth)
  return (parts.dropLast, parts.getLastD first)

/-! ### Values -/

/-- A value without quotes. A date and a time may stand apart. -/
def bareValue : Scan Value := do
  let token ← Scan.takeWhile isTokenChar
  let later ← if isDate token then Scan.optional (do
      Scan.exactly " "
      let time ← Scan.takeWhile isTokenChar
      guard (isOffsetTime time)
      return ' ' :: time)
    else pure none
  match later with
  | some time => return .moment (String.ofList (token ++ time))
  | none => match classify? token with
    | some v => return v
    | none => failure

/-- The elements of an array and the bracket behind them, in a text of no more than `n` characters. -/
def elements (element : Scan Value) : Nat → Scan (List Value)
  | 0 => failure
  | n + 1 => do
    filler n
    if ← Scan.beginsWith "]" then
      Scan.drop 1
      return []
    let v ← element
    filler n
    if ← Scan.beginsWith "," then
      Scan.drop 1
      return v :: (← elements element n)
    Scan.exactly "]"
    return [v]

def keyValue (value : Scan Value) : Scan (List String × String × Value) := do
  let (path, last) ← key
  spaces
  Scan.exactly "="
  spaces
  return (path, last, ← value)

/-- The entries of an inline table, at least one, and the brace behind them. There are no more than
`n`. -/
def inlineEntries (value : Scan Value) : Nat → Entries → Scan Entries
  | 0, _ => failure
  | n + 1, entries => do
    let (path, last, v) ← keyValue value
    let some entries := put path last v .header entries | failure
    spaces
    if ← Scan.beginsWith "," then
      Scan.drop 1
      inlineEntries value n entries
    else
      Scan.exactly "\x7d"
      return entries

def inlineTable (value : Scan Value) (n : Nat) : Scan Value := do
  Scan.exactly "\x7b"
  spaces
  if ← Scan.beginsWith "\x7d" then
    Scan.drop 1
    return .table []
  return .table (valuesOf (← inlineEntries value n []))

/-- A value that is nested in itself less than `depth` times, in a text of no more than `n`
characters. -/
def value (n : Nat) : Nat → Scan Value
  | 0 => failure
  | depth + 1 => do
    match ← Scan.peek? with
    | some '"' | some '\'' => return .text (← anyString)
    | some '[' =>
      guard (depth > 0)
      Scan.drop 1
      return .list (← elements (value n depth) n)
    | some '\x7b' =>
      guard (depth > 0)
      inlineTable (value n depth) n
    | _ => bareValue

/-! ### Lines -/

inductive Line where
  | blank
  | tableHeader (path : List String) (key : String)
  | elementHeader (path : List String) (key : String)
  | entry (path : List String) (key : String) (v : Value)

def header : Scan Line := do
  let double ← Scan.beginsWith "[["
  Scan.drop (if double then 2 else 1)
  let (path, last) ← key
  spaces
  Scan.exactly (if double then "]]" else "]")
  return if double then .elementHeader path last else .tableHeader path last

/-- A line of a text of no more than `n` characters. -/
def line (n : Nat) : Scan Line := do
  spaces
  let line ← match ← Scan.peek? with
    | none | some '#' | some '\n' | some '\r' => pure Line.blank
    | some '[' => header
    | some _ =>
      let (path, last, v) ← keyValue (value n maxDepth)
      pure (Line.entry path last v)
  lineEnd
  return line

/-- All lines of a text of less than `n` characters. -/
def lines : Nat → Scan (List Line)
  | 0 => failure
  | n + 1 => do
    if (← Scan.peek?).isNone then return []
    let first ← line n
    return first :: (← lines n)

/-! ### Documents -/

/-- The tables so far, and the way to the one that entries go into. -/
structure Draft where
  root : Entries := []
  path : List String := []

def Draft.add (d : Draft) : Line → Option Draft
  | .blank => some d
  | .tableHeader path key =>
    (openTable path key d.root).map fun root => ⟨root, path ++ [key]⟩
  | .elementHeader path key =>
    (openElement path key d.root).map fun root => ⟨root, path ++ [key]⟩
  | .entry path key v =>
    (within false (put path key v) .header d.path d.root).map fun root => { d with root }

/-- A byte order mark in front is dropped. -/
def withoutMark : List Char → List Char
  | '\ufeff' :: cs => cs
  | cs => cs

def document? (text : String) : Option Value := do
  let cs := withoutMark text.toList
  let (lines, _) ← lines (cs.length + 1) cs
  let d ← lines.foldlM Draft.add {}
  return .table (valuesOf d.root)

end Screencast.Toml
