import Screencast.Toml.Scan

/-!
Quoted strings: basic ones with escapes between double quotes, literal ones between single quotes,
and both over several lines between three quotes. A line end inside becomes a line feed, and one
right after the opening quotes is dropped.
-/

namespace Screencast.Toml

/-! ### Escapes -/

def hexValue? (c : Char) : Option Nat :=
  if c.isDigit then some (c.toNat - '0'.toNat)
  else if 'a' ≤ c && c ≤ 'f' then some (c.toNat - 'a'.toNat + 10)
  else if 'A' ≤ c && c ≤ 'F' then some (c.toNat - 'A'.toNat + 10)
  else none

/-- The character with this number, written in hexadecimal. -/
def scalar? (digits : List Char) : Option Char := do
  let values ← digits.mapM hexValue?
  let n := values.foldl (fun n d => 16 * n + d) 0
  if n.isValidChar then some (Char.ofNat n) else none

def shortEscape? : Char → Option Char
  | 'b' => some '\x08'
  | 't' => some '\t'
  | 'n' => some '\n'
  | 'f' => some '\x0c'
  | 'r' => some '\r'
  | '"' => some '"'
  | '\\' => some '\\'
  | _ => none

/-! ### On one line -/

/-- From behind the opening quote on; what was read so far stands in reverse. -/
def basicBody (before : List Char) : List Char → Option (List Char × List Char)
  | '"' :: rest => some (before.reverse, rest)
  | '\\' :: 'u' :: a :: b :: c :: d :: rest => do
    basicBody ((← scalar? [a, b, c, d]) :: before) rest
  | '\\' :: 'U' :: a :: b :: c :: d :: e :: f :: g :: h :: rest => do
    basicBody ((← scalar? [a, b, c, d, e, f, g, h]) :: before) rest
  | '\\' :: c :: rest => do basicBody ((← shortEscape? c) :: before) rest
  | c :: rest => if isPrintable c then basicBody (c :: before) rest else none
  | [] => none

def literalBody (before : List Char) : List Char → Option (List Char × List Char)
  | '\'' :: rest => some (before.reverse, rest)
  | c :: rest => if isPrintable c then literalBody (c :: before) rest else none
  | [] => none

/-! ### Over several lines -/

/-- Up to two quotes in front of the closing ones belong to the string. -/
def closing (quote : Char) (before rest : List Char) : List Char × List Char :=
  let extra := (rest.take 2).takeWhile (· == quote)
  ((extra ++ before).reverse, rest.drop extra.length)

/-- A backslash at the end of a line also takes the blanks and line ends that follow. -/
def endsLine (cs : List Char) : Bool :=
  match cs.dropWhile isSpace with
  | '\n' :: _ | '\r' :: '\n' :: _ => true
  | _ => false

/-- `skipping` is set behind a backslash at the end of a line. -/
def longBasicBody (skipping : Bool) (before : List Char) :
    List Char → Option (List Char × List Char)
  | '"' :: '"' :: '"' :: rest => some (closing '"' before rest)
  | '\\' :: 'u' :: a :: b :: c :: d :: rest => do
    longBasicBody false ((← scalar? [a, b, c, d]) :: before) rest
  | '\\' :: 'U' :: a :: b :: c :: d :: e :: f :: g :: h :: rest => do
    longBasicBody false ((← scalar? [a, b, c, d, e, f, g, h]) :: before) rest
  | '\r' :: '\n' :: rest =>
    longBasicBody skipping (if skipping then before else '\n' :: before) rest
  | '\\' :: c :: rest =>
    if endsLine (c :: rest) then longBasicBody true before (c :: rest)
    else do longBasicBody false ((← shortEscape? c) :: before) rest
  | c :: rest =>
    if skipping && (isSpace c || c == '\n') then longBasicBody true before rest
    else if isPrintable c || c == '\n' then longBasicBody false (c :: before) rest
    else none
  | [] => none

def longLiteralBody (before : List Char) : List Char → Option (List Char × List Char)
  | '\'' :: '\'' :: '\'' :: rest => some (closing '\'' before rest)
  | '\r' :: '\n' :: rest => longLiteralBody ('\n' :: before) rest
  | c :: rest => if isPrintable c || c == '\n' then longLiteralBody (c :: before) rest else none
  | [] => none

/-! ### All kinds -/

def body (scan : List Char → Option (List Char × List Char)) : Scan String := fun cs =>
  (scan cs).map fun (content, rest) => (String.ofList content, rest)

/-- A string on one line, as it may also stand for a key. -/
def shortString : Scan String := do
  match ← Scan.peek? with
  | some '"' => do Scan.drop 1; body (basicBody [])
  | some '\'' => do Scan.drop 1; body (literalBody [])
  | _ => failure

def anyString : Scan String := do
  if ← Scan.beginsWith "\"\"\"" then
    Scan.drop 3
    let _ ← Scan.optional newline
    body (longBasicBody false [])
  else if ← Scan.beginsWith "'''" then
    Scan.drop 3
    let _ ← Scan.optional newline
    body (longLiteralBody [])
  else shortString

end Screencast.Toml
