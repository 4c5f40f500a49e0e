import ShellDocs.Markdown.Line
import ShellDocs.Markdown.Reference
import ShellDocs.Text.Case

/-! # Targets and labels of links

Where a link leads, and the label by which the definition of a link is found.
-/

namespace ShellDocs.Markdown

open Text

def maxParentheses : Nat := 5

def maxLabel : Nat := 1000

/-- A target in angle brackets, the first of which has been read. -/
def pointedTarget? : List Char → Option (List Char × List Char)
  | [] => none
  | '>' :: rest => some ([], rest)
  | '\\' :: c :: rest =>
    if isAsciiPunctuation c then
      (pointedTarget? rest).map fun (t, r) => ('\\' :: c :: t, r)
    else (pointedTarget? (c :: rest)).map fun (t, r) => ('\\' :: t, r)
  | c :: rest =>
    if isBreak c ∨ c = '<' then none
    else (pointedTarget? rest).map fun (t, r) => (c :: t, r)

/-- A bare target ends at a space, at a control character or at a parenthesis that closes
more than were opened. -/
def bareTarget? (nesting : Nat) : List Char → Option (List Char × List Char)
  | [] => if nesting = 0 then some ([], []) else none
  | '\\' :: c :: rest =>
    if isAsciiPunctuation c then
      (bareTarget? nesting rest).map fun (t, r) => ('\\' :: c :: t, r)
    else (bareTarget? nesting (c :: rest)).map fun (t, r) => ('\\' :: t, r)
  | c :: rest =>
    if c.toNat ≤ 0x20 then if nesting = 0 then some ([], c :: rest) else none
    else if c = '(' then
      if maxParentheses < nesting then none
      else (bareTarget? (nesting + 1) rest).map fun (t, r) => (c :: t, r)
    else if c = ')' then
      if nesting = 0 then some ([], c :: rest)
      else (bareTarget? (nesting - 1) rest).map fun (t, r) => (c :: t, r)
    else (bareTarget? nesting rest).map fun (t, r) => (c :: t, r)

def target? (l : List Char) : Option (List Char × List Char) :=
  match l with
  | '<' :: rest => pointedTarget? rest
  | _ => bareTarget? 0 l

/-- A label while it is read: its size so far, and whether it holds more than white space
and escapes. -/
structure LabelState where
  size : Nat := 0
  solid : Bool := false

def LabelState.grow (s : LabelState) (n : Nat) : LabelState := { s with size := s.size + n }

/-- A character beyond ASCII counts by its bytes, one of ASCII does not count. -/
def LabelState.add (s : LabelState) (c : Char) : LabelState where
  size := if c.utf8Size = 1 then s.size else s.size + c.utf8Size
  solid := true

/-- A character after a backslash. -/
def LabelState.addEscaped (s : LabelState) (c : Char) : LabelState where
  size := s.size + c.utf8Size + 1
  solid := s.solid || c.utf8Size ≠ 1

def lineEnds : List Char → Nat
  | [] => 0
  | c :: rest => (if endsLine c rest then 1 else 0) + lineEnds rest

/-- The text up to the bracket that closes a label, with one space for white space, and what
follows. In a table a pipe may be escaped. The fuel is the length of the text. -/
def labelTextWith (inTable : Bool) : Nat → LabelState → List Char →
    Option (List Char × List Char)
  | 0, _, _ => none
  | _, _, [] => none
  | fuel + 1, s, c :: rest =>
    if maxLabel ≤ s.size ∨ c = '[' then none
    else if c = ']' then if s.solid then some ([], rest) else none
    else if c = '\\' then
      match rest with
      | [] => none
      | d :: after =>
        if inTable && d = '|' then labelTextWith inTable fuel (s.grow 1) rest
        else if inTable && d = '\\' && after.head? = some '|' then
          labelTextWith inTable fuel (s.grow 2) after
        else
          (labelTextWith inTable fuel (s.addEscaped d) after).map fun (t, r) => (c :: d :: t, r)
    else if isBlank c then
      let blanks := c :: rest.takeWhile isBlank
      if 1 < lineEnds blanks then none
      else
        (labelTextWith inTable fuel (s.grow blanks.length) (rest.dropWhile isBlank)).map
          fun (t, r) => (' ' :: t, r)
    else (labelTextWith inTable fuel (s.add c) rest).map fun (t, r) => (c :: t, r)

/-- A label in brackets, and what follows. -/
def label? (inTable : Bool) (l : List Char) : Option (List Char × List Char) :=
  match l with
  | '[' :: rest => labelTextWith inTable l.length {} rest
  | _ => none

/-- Labels that differ in case or white space count as one. -/
def normalLabel (l : List Char) : List Char := fold (trimBlanks l)

structure Definition where
  label : List Char
  target : String
  title : String

/-- The first definition of a label counts. -/
def lookUp? (definitions : List Definition) (label : List Char) : Option (String × String) :=
  let label := normalLabel label
  (definitions.find? (·.label = label)).map fun d => (d.target, d.title)

end ShellDocs.Markdown
