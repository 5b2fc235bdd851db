/-!
Reading from the front of a text: what was read and what is left, or nothing if the text does not
begin as it should.
-/

namespace Screencast.Toml

abbrev Scan := StateT (List Char) Option

namespace Scan

def peek? : Scan (Option Char) := fun cs => some (cs.head?, cs)

/-- The text begins with these characters. -/
def beginsWith (front : String) : Scan Bool := fun cs => some (front.toList.isPrefixOf cs, cs)

def drop (n : Nat) : Scan Unit := fun cs => some ((), cs.drop n)

def exactly (front : String) : Scan Unit := do
  guard (← beginsWith front)
  drop front.length

def takeWhile (p : Char → Bool) : Scan (List Char) := fun cs => some (cs.span p)

/-- What can be read, or nothing without moving on. -/
def optional {α : Type} (scan : Scan α) : Scan (Option α) := fun cs =>
  match scan cs with
  | some (a, rest) => some (some a, rest)
  | none => some (none, cs)

end Scan

/-- Spaces and tabs. -/
def isSpace (c : Char) : Bool := c == ' ' || c == '\t'

/-- Control characters other than the tab stand nowhere but at the end of a line. -/
def isPrintable (c : Char) : Bool := c == '\t' || (' ' ≤ c && c != '\x7f')

def spaces : Scan Unit := do let _ ← Scan.takeWhile isSpace

def newline : Scan Unit := Scan.exactly "\n" <|> Scan.exactly "\r\n"

/-- The end of a line, or of the text. -/
def newlineOrEnd : Scan Unit := do
  if (← Scan.peek?).isSome then newline

/-- From the number sign to the end of the line. -/
def comment : Scan Unit := do
  Scan.exactly "#"
  let _ ← Scan.takeWhile isPrintable

/-- Nothing but blanks and a comment to the end of the line. -/
def lineEnd : Scan Unit := do
  spaces
  let _ ← Scan.optional comment
  newlineOrEnd

/-- All that may stand between the elements of an array: blanks, comments and line ends, of which
there are no more than `n`. -/
def filler : Nat → Scan Unit
  | 0 => spaces
  | n + 1 => do
    spaces
    match ← Scan.peek? with
    | some '#' => do
      comment
      newline
      filler n
    | some '\n' | some '\r' => do
      newline
      filler n
    | _ => pure ()

end Screencast.Toml
