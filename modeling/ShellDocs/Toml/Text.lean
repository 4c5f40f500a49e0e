import ShellDocs.Toml.Reader

/-! # TOML strings

A string stands between quotes, in one line or, between three quotes at each end, in
several. Between double quotes a backslash begins an escape.
-/

namespace ShellDocs.Toml

def isHexDigit (c : Char) : Bool :=
  c.isDigit || ('a' ≤ c && c ≤ 'f') || ('A' ≤ c && c ≤ 'F')

def digitValue (c : Char) : Nat :=
  if c.isDigit then c.toNat - '0'.toNat else c.toLower.toNat - 'a'.toNat + 10

def digitsValue (base : Nat) (digits : List Char) : Nat :=
  digits.foldl (fun n c => base * n + digitValue c) 0

/-- The character whose code is written in a number of hexadecimal digits. -/
def codePoint? (width : Nat) (l : List Char) : Option (Char × Nat) :=
  let digits := l.take width
  let code := digitsValue 16 digits
  if digits.length = width ∧ digits.all isHexDigit ∧ code.isValidChar then
    some (Char.ofNat code, width + 1)
  else none

/-- The character that an escape stands for, and the length of the escape without its
backslash. -/
def escape? : List Char → Option (Char × Nat)
  | 'b' :: _ => some ('\x08', 1)
  | 't' :: _ => some ('\t', 1)
  | 'n' :: _ => some ('\n', 1)
  | 'f' :: _ => some ('\x0c', 1)
  | 'r' :: _ => some ('\r', 1)
  | '"' :: _ => some ('"', 1)
  | '\\' :: _ => some ('\\', 1)
  | 'u' :: rest => codePoint? 4 rest
  | 'U' :: rest => codePoint? 8 rest
  | _ => none

def isGap (c : Char) : Bool := Text.isIndent c || c = '\n'

/-- Replaces the escapes. A backslash at the end of a line stands for nothing, with all
blanks and line ends after it. -/
def unescape (l : List Char) : Option (List Char) :=
  match l with
  | [] => some []
  | '\\' :: rest =>
    if (rest.dropWhile Text.isIndent).head? = some '\n' then
      unescape (rest.dropWhile isGap)
    else match escape? rest with
      | some (c, n) => (unescape (rest.drop n)).map (c :: ·)
      | none => none
  | c :: rest => (unescape rest).map (c :: ·)
termination_by l.length
decreasing_by
  · have := (List.dropWhile_sublist isGap : (rest.dropWhile isGap).Sublist rest).length_le
    show (rest.dropWhile isGap).length < rest.length + 1
    omega
  · show (rest.drop n).length < rest.length + 1
    rw [List.length_drop]
    omega
  · exact Nat.lt_succ_self rest.length

/-- The characters between quotes as they count, or nothing if one is not allowed. -/
def lineOf : List Char → Option (List Char)
  | [] => some []
  | c :: rest => if isPrintable c then (lineOf rest).map (c :: ·) else none

def linesOf : List Char → Option (List Char)
  | [] => some []
  | '\n' :: rest => (linesOf rest).map ('\n' :: ·)
  | '\r' :: '\n' :: rest => (linesOf rest).map ('\n' :: ·)
  | c :: rest => if isPrintable c then (linesOf rest).map (c :: ·) else none

/-- Cuts before the closing quotes, which do not follow a backslash where there are
escapes. -/
def cutAt (quotes : List Char) (escapes : Bool) :
    List Char → Option (List Char × List Char)
  | [] => none
  | c :: rest =>
    if quotes.isPrefixOf (c :: rest) then some ([], (c :: rest).drop quotes.length)
    else if escapes && c = '\\' then
      match rest with
      | [] => none
      | d :: rest => (cutAt quotes escapes rest).map fun (inner, after) =>
        (c :: d :: inner, after)
    else (cutAt quotes escapes rest).map fun (inner, after) => (c :: inner, after)

def decode (escapes : Bool) (inner : List Char) : Option String :=
  if escapes then (unescape inner).map String.ofList else some (String.ofList inner)

/-- A string in one line whose opening quote has been read. -/
def readLineString (quote : Char) : Reader String := fun l => do
  let escapes := quote = '"'
  let (inner, rest) ← cutAt [quote] escapes l
  return (← decode escapes (← lineOf inner), rest)

def dropNewline : List Char → List Char
  | '\n' :: rest => rest
  | '\r' :: '\n' :: rest => rest
  | l => l

/-- A string in several lines whose opening quotes have been read. A line end right after
them does not count. Two more quotes may stand before the closing ones. -/
def readLinesString (quote : Char) : Reader String := fun l => do
  let escapes := quote = '"'
  let (inner, rest) ← cutAt [quote, quote, quote] escapes (dropNewline l)
  let more := (rest.take 2).takeWhile (· = quote)
  return (← decode escapes (← linesOf (inner ++ more)), rest.drop more.length)

end ShellDocs.Toml
