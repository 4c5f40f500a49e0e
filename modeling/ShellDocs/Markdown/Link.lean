import ShellDocs.Markdown.Part

/-! # Links

What follows the text of a link: a target and perhaps a title in parentheses, or a label.
-/

namespace ShellDocs.Markdown

open Text

/-- Drops white space with one line end at most. -/
def skipSeparator (l : List Char) : List Char :=
  let l := l.dropWhile isGap
  (l.drop ((lineEnd? l).getD 0)).dropWhile isGap

/-- The text of a title up to its closing mark. -/
def titleText? (opening closing : Char) : List Char → Option (List Char × List Char)
  | [] => none
  | '\\' :: c :: rest =>
    if isAsciiPunctuation c then
      (titleText? opening closing rest).map fun (t, r) => ('\\' :: c :: t, r)
    else (titleText? opening closing (c :: rest)).map fun (t, r) => ('\\' :: t, r)
  | c :: rest =>
    if c = closing then some ([], rest)
    else if c = opening then none
    else (titleText? opening closing rest).map fun (t, r) => (c :: t, r)

def title? (l : List Char) : Option (List Char × List Char) :=
  match l with
  | '"' :: rest => titleText? '"' '"' rest
  | '\'' :: rest => titleText? '\'' '\'' rest
  | '(' :: rest => titleText? '(' ')' rest
  | _ => none

/-- A line of a title begins with the part that begins the line. Letters before `first` are
dropped. -/
def joinLines (parts : List Part) (first : Nat) : List Letter → List Letter
  | [] => []
  | l :: rest =>
    if l.pos < first then joinLines parts first rest
    else if isBreak l.char then
      let parts := parts.dropWhile (·.stop ≤ l.pos + 1)
      match parts.head?.map (·.start.pos) with
      | some start =>
        if l.pos < start then ⟨l.pos, '\n'⟩ :: joinLines parts start rest
        else l :: joinLines parts first rest
      | none => l :: joinLines parts first rest
    else l :: joinLines parts first rest

namespace Setting

/-- A title at a place in the text of the parts, and the place after it. -/
def title? (x : Setting) (parts : List Part) (p : Place) : Option (String × Place) :=
  let letters := joinLines parts 0 (p.lettersTo x.stop)
  (Markdown.title? (chars letters)).map fun (title, rest) =>
    (resolve x.inTable title, p.atPos (endPos p.pos (splitBefore letters rest).1))

/-- The target and the title in parentheses after the text of a link, and where they end. -/
def inlineTail? (x : Setting) (parts : List Part) (p : Place) :
    Option ((String × String) × Nat) :=
  let letters := x.letters p
  match chars letters with
  | '(' :: rest =>
    (target? (skipSeparator rest)).bind fun (target, _) =>
      let afterTarget := x.skip p fun l =>
        ((target? (skipSeparator l.tail)).map (skipSeparator ·.2)).getD []
      let (title, last) := match x.title? parts afterTarget with
        | some (title, p) => (title, x.skip p skipSeparator)
        | none => ("", afterTarget)
      if (x.verbatim last).head? = some ')' then
        some ((resolve x.inTable target, title), last.pos + 1)
      else none
  | _ => none

/-- The definition of a label that stands for a link, with which letters end. -/
def ownLabel? (x : Setting) (letters : List Letter) : Option (String × String) :=
  (label? x.inTable (chars letters)).bind fun (label, rest) =>
    if rest = [] then lookUp? x.definitions label else none

end Setting

/-- The label after the text of a link: one with its text and where it ends, an empty one,
or none. -/
inductive LabelAfter where
  | text (label : List Char) (stop : Nat)
  | empty
  | none

def Setting.labelAfter (x : Setting) (parts : List Part) : LabelAfter :=
  match parts with
  | [] => .none
  | part :: _ =>
    if ['[', ']'].isPrefixOf (x.verbatim part.start) then .empty
    else
      let letters := x.letters part.start
      match label? x.inTable (chars letters) with
      | some (label, rest) => .text label (endPos part.start.pos (splitBefore letters rest).1)
      | _ => .none

end ShellDocs.Markdown
