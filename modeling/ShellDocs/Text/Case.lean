import ShellDocs.Text.Case.Table

/-! # Lower case

Each character has its own lower case, except that a capital sigma becomes a final sigma
at the end of a word: after a cased letter and before none, case-ignorable characters
apart.
-/

namespace ShellDocs.Text

def isCased (c : Char) : Bool := inRanges casedRanges c

def isCaseIgnorable (c : Char) : Bool := inRanges caseIgnorableRanges c

def lowerChar (c : Char) : List Char :=
  if c.toNat < 0x80 then [c.toLower]
  else if c = 'İ' then ['i', '\u0307']
  else [(moveBy lowerRuns c).getD c]

/-- The next character that is not case-ignorable is cased. -/
def casedNext (l : List Char) : Bool :=
  match l.dropWhile isCaseIgnorable with
  | [] => false
  | c :: _ => isCased c

/-- `before` holds the characters already passed, the nearest first. -/
def lowerAfter (before : List Char) : List Char → List Char
  | [] => []
  | c :: rest =>
    (if c = 'Σ' then [if casedNext before && !casedNext rest then 'ς' else 'σ']
      else lowerChar c) ++ lowerAfter (c :: before) rest

def lower (s : String) : String := String.ofList (lowerAfter [] s.toList)

def foldChar (c : Char) : List Char :=
  match foldExpansions.find? (·.1 = c.toNat) with
  | some (_, l) => l.map Char.ofNat
  | none =>
    match moveBy foldRuns c with
    | some d => [d]
    | none => if c = 'Σ' then ['σ'] else lowerChar c

/-- Texts that differ only in case have the same folding. -/
def fold (l : List Char) : List Char := l.flatMap foldChar

end ShellDocs.Text
