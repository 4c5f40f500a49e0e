/-! # Lines

Where a line ends, and what counts as white space within it.
-/

namespace ShellDocs.Markdown

/-- White space within a line. -/
def isGap (c : Char) : Bool := c = ' ' || c = '\t' || c = '\x0b' || c = '\x0c'

def isBreak (c : Char) : Bool := c = '\n' || c = '\r'

def isBlank (c : Char) : Bool := isGap c || isBreak c

/-- White space that counts in columns. -/
def isIndentation (c : Char) : Bool := c = ' ' || c = '\t'

/-- How many characters end a line here. The end of the text ends a line as well. -/
def lineEnd? : List Char → Option Nat
  | [] => some 0
  | '\r' :: '\n' :: _ => some 2
  | c :: _ => if isBreak c then some 1 else none

/-- How many characters are left of a line on which nothing else stands. -/
def blankLine? (l : List Char) : Option Nat :=
  (lineEnd? (l.dropWhile isGap)).map (· + (l.takeWhile isGap).length)

def isBlankLine (l : List Char) : Bool := (blankLine? l).isSome

/-- How many characters there are up to the end of a line that a line feed ends. -/
def lineLength : List Char → Nat
  | [] => 0
  | c :: rest => if c = '\n' then 1 else lineLength rest + 1

/-- A line ends with this character, before which the others stand. -/
def endsLine (c : Char) (rest : List Char) : Bool :=
  isBreak c && !(c = '\r' && rest.head? = some '\n')

def trimBlanksEnd (l : List Char) : List Char := (l.reverse.dropWhile isBlank).reverse

def trimBlanks (l : List Char) : List Char := trimBlanksEnd (l.dropWhile isBlank)

end ShellDocs.Markdown
