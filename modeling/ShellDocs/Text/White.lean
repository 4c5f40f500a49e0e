/-! # White space

White space as Unicode has it, trimming, and the lines of a text.
-/

namespace ShellDocs.Text

/-- The Unicode property White_Space. -/
def isWhite (c : Char) : Bool :=
  c = ' ' || (9 ≤ c.toNat && c.toNat ≤ 13) || c.toNat = 0x85 || c.toNat = 0xA0 ||
    c.toNat = 0x1680 || (0x2000 ≤ c.toNat && c.toNat ≤ 0x200A) || c.toNat = 0x2028 ||
    c.toNat = 0x2029 || c.toNat = 0x202F || c.toNat = 0x205F || c.toNat = 0x3000

/-- White space that indents a line. -/
def isIndent (c : Char) : Bool := c = ' ' || c = '\t'

def trimStart (l : List Char) : List Char := l.dropWhile isWhite

def trimEnd (l : List Char) : List Char := (l.reverse.dropWhile isWhite).reverse

def trim (l : List Char) : List Char := trimEnd (trimStart l)

/-- A line ends at a line feed, which takes one carriage return before it along. What
follows the last line feed is a line unless it is empty. -/
def lines : List Char → List (List Char)
  | [] => []
  | c :: rest =>
    if c = '\n' then [] :: lines rest
    else if c = '\r' ∧ rest.head? = some '\n' then lines rest
    else match lines rest with
      | [] => [[c]]
      | l :: ls => (c :: l) :: ls

end ShellDocs.Text
