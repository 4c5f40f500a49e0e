import ShellDocs.Markdown.Emphasis
import ShellDocs.Markdown.HtmlTag
import ShellDocs.Markdown.Link

/-! # Reading inline content

The parts of a block are read from left to right. Code and HTML are taken as they come. A
bracket that closes is matched with the last open one, and the emphasis between them is
resolved first.
-/

namespace ShellDocs.Markdown

open Text

/-- An open bracket and the pieces before it, in reverse. -/
structure Bracket where
  image : Bool
  active : Bool
  span : Span
  before : List Piece

/-- The pieces since the innermost open bracket are in reverse. -/
structure Reading where
  brackets : List Bracket := []
  pieces : List Piece := []

namespace Reading

def add (s : Reading) (c : Chunk) : Reading := { s with pieces := .chunk c :: s.pieces }

def addText (s : Reading) (span : Span) : Reading := s.add [.text span.string]

/-- Gives a bracket up as text. -/
def dropBracket (s : Reading) (b : Bracket) (outer : List Bracket) : Reading :=
  ⟨outer, s.pieces ++ .chunk [.text b.span.string] :: b.before⟩

/-- Makes a link of a bracket. A link within the text of a link is none. -/
def link (s : Reading) (b : Bracket) (outer : List Bracket) (found : String × String) :
    Reading :=
  let content := resolveEmphasis false s.pieces.reverse
  let tag := if b.image then .image found.1 found.2 else .link found.1 found.2
  let outer := if b.image then outer
    else outer.map fun b => if b.image then b else { b with active := false }
  ⟨outer, .chunk (around tag content) :: b.before⟩

def finish (marked : Bool) (s : Reading) : List Event :=
  let s := s.brackets.foldl (fun (s : Reading) b => s.dropBracket b []) s
  resolveEmphasis marked s.pieces.reverse

end Reading

def isSchemeChar (c : Char) : Bool := c.isAlphanum || c = '+' || c = '.' || c = '-'

/-- An address with a scheme, whose opening angle bracket has been read. -/
def autolink? (l : List Char) : Option (List Char × List Char) :=
  let scheme := l.takeWhile isSchemeChar
  match l, l.dropWhile isSchemeChar with
  | c :: _, ':' :: rest =>
    if c.isAlpha ∧ 2 ≤ scheme.length ∧ scheme.length ≤ 32 then
      let isPart := fun c : Char => 0x20 < c.toNat && c ≠ '<' && c ≠ '>'
      match rest.dropWhile isPart with
      | '>' :: after => some (scheme ++ ':' :: rest.takeWhile isPart, after)
      | _ => none
    else none
  | _, _ => none

def isMailChar (c : Char) : Bool := c.isAlphanum || ".!#$%&'*+/=?^_`\x7b|\x7d~-".contains c

def isHostLabel (l : List Char) : Bool :=
  1 ≤ l.length && l.length ≤ 63 && l.all (fun c => c.isAlphanum || c = '-') &&
    l.head? ≠ some '-' && l.getLast? ≠ some '-'

/-- A mail address, whose opening angle bracket has been read. -/
def mailAddress? (l : List Char) : Option (List Char × List Char) :=
  let user := l.takeWhile isMailChar
  match user, l.dropWhile isMailChar with
  | _ :: _, '@' :: rest =>
    let isPart := fun c : Char => c.isAlphanum || c = '-' || c = '.'
    match rest.dropWhile isPart with
    | '>' :: after =>
      let host := rest.takeWhile isPart
      if (splitOn '.' host).all isHostLabel then some (user ++ '@' :: host, after) else none
    | _ => none
  | _, _ => none

/-- The next run of exactly `n` backticks, and the parts after it. Code does not reach over
a block. -/
def ticksEnd? (n : Nat) : List Part → Option (Span × List Part)
  | [] => none
  | .block _ _ _ :: _ => none
  | .span s :: rest =>
    match s.kind with
    | .ticks m _ => if m = n then some (s, rest) else ticksEnd? n rest
    | _ => ticksEnd? n rest

/-- Line ends count as spaces. In a table a pipe may be escaped. -/
def codeChars (inTable : Bool) : List Char → List Char
  | [] => []
  | '\\' :: '|' :: rest =>
    if inTable then '|' :: codeChars inTable rest else '\\' :: '|' :: codeChars inTable rest
  | c :: rest => (if isBreak c then ' ' else c) :: codeChars inTable rest

/-- One space on each side of code is taken away if there is anything but spaces between
them. -/
def codeText (l : List Char) : String :=
  if l.head? = some ' ' ∧ l.getLast? = some ' ' ∧ l.any (· ≠ ' ') then
    String.ofList (l.drop 1).dropLast
  else String.ofList l

namespace Setting

/-- What begins with an angle bracket before a part: an address, a mail address or HTML, and
where it ends. -/
def angle? (x : Setting) (s : Span) (next : Part) : Option (Chunk × Nat) :=
  let text := x.verbatim next.start
  let stopBefore := fun rest : List Char => next.start.pos + (text.length - rest.length)
  match autolink? text with
  | some (address, rest) =>
    let address := String.ofList address
    some (around (.link address "") [.text address], stopBefore rest)
  | none =>
    match mailAddress? text with
    | some (address, rest) =>
      let address := String.ofList address
      some (around (.mail address) [.text address], stopBefore rest)
    | none =>
      match untagged? text with
      | some rest =>
        let stop := stopBefore rest
        some ([.inlineHtml (String.ofList (s.start.textTo stop))], stop)
      | none =>
        let letters := x.letters next.start
        (tag? (chars letters)).map fun rest =>
          let passed := (splitBefore letters rest).1
          ([.inlineHtml (String.ofList ('<' :: chars passed))], endPos next.start.pos passed)

/-- Reads backticks. A backslash takes the meaning from the first of them. -/
def readTicks (x : Setting) (s : Reading) (span : Span) (count : Nat) (escaped : Bool)
    (rest : List Part) : Reading × List Part :=
  let n := if escaped then count - 1 else count
  match if n = 0 then none else ticksEnd? n rest with
  | none => (s.addText span, rest)
  | some (closing, after) =>
    let content := unmarked x.outer closing.start.pos (span.start.atPos span.stop)
    let code := Event.code (codeText (codeChars x.inTable (chars content)))
    (s.add (if escaped then [.text "`", code] else [code]), after)

/-- Reads a closing bracket. A label that has been tried as such is not tried as the text of
a link. -/
def closeBracket (x : Setting) (s : Reading) (span : Span) (fresh : Bool) (rest : List Part) :
    Reading × List Part :=
  match s.brackets with
  | [] => (s.addText span, rest)
  | b :: outer =>
    let dropped := (s.dropBracket b outer).addText span
    let own := if fresh then
        x.ownLabel? (unmarked x.outer span.stop (b.span.start.atPos (b.span.stop - 1)))
      else none
    let ownLink := fun after : List Part =>
      match own with
      | some found => (s.link b outer found, after)
      | none => (dropped, rest)
    if !b.active then (dropped, rest)
    else match x.inlineTail? rest (span.start.atPos span.stop) with
      | some (found, stop) => (s.link b outer found, partsAfter stop rest)
      | none =>
        match x.labelAfter rest with
        | .none => ownLink rest
        | .empty => ownLink (rest.drop 2)
        | .text label stop =>
          match lookUp? x.definitions label, rest.dropWhile (·.stop < stop) with
          | some found, _ :: after => (s.link b outer found, after)
          | none, close :: after =>
            (dropped, rest.takeWhile (·.stop < stop) ++
              .span ⟨close.start, close.stop, .closing false⟩ :: after)
          | _, _ => (dropped, rest)

/-- Reads a span, and gives the parts that are left. -/
def readSpan (x : Setting) (s : Reading) (span : Span) (rest : List Part) :
    Reading × List Part :=
  match span.kind with
  | .text => (s.addText span, rest)
  | .written text => (s.add [.text text], rest)
  | .softBreak => (s.add [.softBreak], rest)
  | .hardBreak false => (s.add [.hardBreak], rest)
  | .hardBreak true => ({ s with pieces := .backslash :: s.pieces }, rest)
  | .run length opens closes =>
    let run : Run := ⟨span.start.rest.headD ' ', length, length, opens, closes, span.chars⟩
    ({ s with pieces := .run run :: s.pieces }, rest)
  | .ticks count escaped => x.readTicks s span count escaped rest
  | .angle =>
    match rest with
    | [] => (s.addText span, rest)
    | next :: _ =>
      match x.angle? span next with
      | some (chunk, stop) => (s.add chunk, partsAfter stop rest)
      | none => (s.addText span, rest)
  | .opening image => (⟨⟨image, true, span, s.pieces⟩ :: s.brackets, []⟩, rest)
  | .closing fresh => x.closeBracket s span fresh rest

/-- The fuel is the number of parts, of which every step reads one at least. -/
def readWith (x : Setting) : Nat → Reading → List Part → Reading
  | 0, s, _ => s
  | _, s, [] => s
  | fuel + 1, s, .block _ _ events :: rest => x.readWith fuel (s.add events) rest
  | fuel + 1, s, .span span :: rest =>
    let (s, rest) := x.readSpan s span rest
    x.readWith fuel s rest

end Setting

/-- Whether a part has a meaning that depends on what follows it. -/
def Part.isMark : Part → Bool
  | .block _ _ _ => false
  | .span s =>
    match s.kind with
    | .text | .written _ | .softBreak | .hardBreak _ => false
    | _ => true

/-- The events of the parts of a block. -/
def Setting.read (x : Setting) (parts : List Part) : List Event :=
  (x.readWith parts.length {} parts).finish (parts.any Part.isMark)

end ShellDocs.Markdown
