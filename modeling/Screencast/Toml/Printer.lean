import Screencast.Record.Value

/-!
Tables of tables as TOML documents: a section for each table, a line for each entry, and a blank
line between sections.
-/

namespace Screencast.Toml

/-- Basic strings escape quotes, backslashes and control characters. -/
def escape (c : Char) : List Char :=
  match c with
  | '"' => ['\\', '"']
  | '\\' => ['\\', '\\']
  | '\n' => ['\\', 'n']
  | '\r' => ['\\', 'r']
  | '\t' => ['\\', 't']
  | '\x08' => ['\\', 'b']
  | '\x0c' => ['\\', 'f']
  | _ =>
    if c.toNat < 0x20 || c == '\x7f' then
      ['\\', 'u', '0', '0', (c.toNat / 16).digitChar, (c.toNat % 16).digitChar]
    else [c]

def quote (s : String) : String := String.ofList ('"' :: s.toList.flatMap escape ++ ['"'])

/-- Scalars have a text; nothing else is printed inside a section. -/
def scalarText? : Value → Option String
  | .bool b => some (if b then "true" else "false")
  | .int n => some (toString n)
  | .text s => some (quote s)
  | _ => none

def entryText? (entry : String × Value) : Option String :=
  (scalarText? entry.2).map fun text => entry.1 ++ " = " ++ text ++ "\n"

def sectionText (name : String) (entries : List (String × Value)) : String :=
  "[" ++ name ++ "]\n" ++ String.join (entries.filterMap entryText?)

/-- The sections of a document, in order. -/
def sectionTexts : Value → List String
  | .table sections => sections.filterMap fun
    | (name, .table entries) => some (sectionText name entries)
    | _ => none
  | _ => []

def print (v : Value) : String := String.intercalate "\n" (sectionTexts v)

end Screencast.Toml
