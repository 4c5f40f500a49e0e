import ShellDocs.Text.White

/-! # Reading TOML

A reader takes characters from the front of a text, or fails.
-/

namespace ShellDocs.Toml

abbrev Reader := StateT (List Char) Option

namespace Reader

def peek : Reader (Option Char) := fun l => some (l.head?, l)

def remaining : Reader Nat := fun l => some (l.length, l)

def takeWhile (p : Char → Bool) : Reader (List Char) :=
  fun l => some (l.takeWhile p, l.dropWhile p)

/-- Takes a text if it comes next. -/
def accept (text : String) : Reader Bool := fun l =>
  if text.toList.isPrefixOf l then some (true, l.drop text.length) else some (false, l)

def expect (text : String) : Reader Unit := do
  guard (← accept text)

/-- Whether a reader takes all of a text. -/
def takesAll (r : Reader Unit) (l : List Char) : Bool :=
  match r l with
  | some ((), []) => true
  | _ => false

end Reader

open Reader

/-- Characters that may stand in comments and strings. -/
def isPrintable (c : Char) : Bool := c = '\t' || (0x20 ≤ c.toNat && c.toNat ≠ 0x7f)

def blanks : Reader Unit := do
  let _ ← takeWhile Text.isIndent

/-- Takes the end of a line, with a comment before it. The last line may end with the
text. -/
def endLine : Reader Unit := do
  blanks
  if ← accept "#" then
    let _ ← takeWhile isPrintable
  if (← accept "\n") || (← accept "\r\n") then return
  guard (← peek).isNone

/-- Drops blanks, line ends and comments. A comment has to end before the text does. -/
def dropGap (inComment : Bool) : List Char → Option (List Char)
  | [] => if inComment then none else some []
  | '\n' :: rest => dropGap false rest
  | '\r' :: '\n' :: rest => dropGap false rest
  | c :: rest =>
    if inComment then if isPrintable c then dropGap true rest else none
    else if c = '#' then dropGap true rest
    else if Text.isIndent c then dropGap false rest
    else some (c :: rest)

def gap : Reader Unit := fun l => (dropGap false l).map ((), ·)

end ShellDocs.Toml
