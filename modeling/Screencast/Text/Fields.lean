/-!
Cutting a text at separator characters.
-/

namespace Screencast.Text

/-- What stands before and after the first `separator`. -/
def cut? (separator : Char) (cs : List Char) : Option (List Char × List Char) :=
  match cs.span (· != separator) with
  | (before, _ :: after) => some (before, after)
  | (_, []) => none

def fieldsFrom (separator : Char) (current : List Char) : List Char → List (List Char)
  | [] => [current.reverse]
  | c :: cs =>
    if c == separator then current.reverse :: fieldsFrom separator [] cs
    else fieldsFrom separator (c :: current) cs

/-- The parts between separators, one more than there are separators. -/
def fields (separator : Char) (cs : List Char) : List (List Char) := fieldsFrom separator [] cs

end Screencast.Text
