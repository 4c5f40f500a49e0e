import ShellDocs.Markdown.ReferenceTable
import ShellDocs.Text.Punctuation
import ShellDocs.Text.Split
import ShellDocs.Text.Utf8

/-! # Escapes and character references

A backslash takes the meaning from a punctuation mark. A character reference stands for the
characters that it names or numbers.
-/

namespace ShellDocs.Markdown

open Text

def hexDigit? (c : Char) : Option Nat :=
  if '0' ≤ c && c ≤ '9' then some (c.toNat - '0'.toNat)
  else if 'a' ≤ c && c ≤ 'f' then some (c.toNat - 'a'.toNat + 10)
  else if 'A' ≤ c && c ≤ 'F' then some (c.toNat - 'A'.toNat + 10)
  else none

/-- The value of digits in a base. -/
def digitsValue (base : Nat) (l : List Char) : Nat :=
  l.foldl (fun n c => n * base + (hexDigit? c).getD 0) 0

/-- The character with a number. Zero gives a replacement. -/
def numbered? (n : Nat) : Option Char :=
  if n = 0 then some replacement else if n.isValidChar then some (Char.ofNat n) else none

def namedReferences : List (List Char × List Char) :=
  (splitOn ' ' (referenceTable.toList.map fun c => if c = '\n' then ' ' else c)).filterMap
    fun entry =>
      match splitOn ':' entry with
      | [name, points] =>
        some (name, (splitOn '+' points).map fun p => Char.ofNat (digitsValue 16 p))
      | _ => none

def named? (name : List Char) : Option (List Char) :=
  (namedReferences.find? (·.1 = name)).map (·.2)

/-- A number with at most `limit` digits before a semicolon, and what follows. -/
def numberReference? (base limit : Nat) (isDigit : Char → Bool) (l : List Char) :
    Option (List Char × List Char) :=
  let digits := l.takeWhile isDigit
  match digits, l.dropWhile isDigit with
  | _ :: _, ';' :: rest =>
    if digits.length ≤ limit then
      (numbered? (digitsValue base digits)).map fun c => ([c], rest)
    else none
  | _, _ => none

/-- The characters of a reference whose ampersand has been read, and what follows. -/
def reference? (l : List Char) : Option (List Char × List Char) :=
  match l with
  | '#' :: 'x' :: rest | '#' :: 'X' :: rest =>
    numberReference? 16 6 (fun c => (hexDigit? c).isSome) rest
  | '#' :: rest => numberReference? 10 7 Char.isDigit rest
  | _ =>
    match l.dropWhile Char.isAlphanum with
    | ';' :: rest => (named? (l.takeWhile Char.isAlphanum)).map fun chars => (chars, rest)
    | _ => none

/-- Resolves escapes and references. In a table a pipe may be escaped twice. The fuel is the
length of the text. -/
def resolveWith (inTable : Bool) : Nat → List Char → List Char
  | 0, l => l
  | _, [] => []
  | fuel + 1, '\\' :: c :: rest =>
    if inTable && c = '\\' && rest.head? = some '|' then '|' :: resolveWith inTable fuel rest.tail
    else if isAsciiPunctuation c then c :: resolveWith inTable fuel rest
    else '\\' :: resolveWith inTable fuel (c :: rest)
  | fuel + 1, '&' :: rest =>
    match reference? rest with
    | some (chars, rest) => chars ++ resolveWith inTable fuel rest
    | none => '&' :: resolveWith inTable fuel rest
  | fuel + 1, c :: rest => c :: resolveWith inTable fuel rest

def resolve (inTable : Bool) (l : List Char) : String :=
  String.ofList (resolveWith inTable l.length l)

/-- Resolves escapes and references. Carriage returns are dropped. -/
def unescape (inTable : Bool) (l : List Char) : String :=
  String.join ((splitOn '\r' l).map (resolve inTable))

end ShellDocs.Markdown
