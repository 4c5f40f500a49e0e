import ShellDocs.Markdown.Definition
import ShellDocs.Markdown.Draft
import ShellDocs.Markdown.Interruption
import ShellDocs.Markdown.LineReader

/-! # Reading blocks

A line first goes on with the open containers as far as it can, then may open new ones, and
a block begins with what remains. The block takes all its lines at once. A paragraph also
takes lines that leave its containers, unless they start something else.
-/

namespace ShellDocs.Markdown

/-- A line of code or HTML, with the columns left of a tab as spaces. A carriage return
before its last character is dropped. -/
def verbatim (spaces : Nat) (line : List Char) : List Char :=
  List.replicate spaces ' ' ++
    match line.reverse with
    | c :: '\r' :: rest => if c.utf8Size = 1 then (c :: rest).reverse else line
    | _ => line

/-- The lines of an indented code block, each with where it ends and whether it is blank,
what follows them, and whether the last line was blank. The fuel is the length of the
text. -/
def indentedLines (outer : List Container) : Nat → Cursor → Bool →
    List (List Char × Nat × Bool) × Place × Bool
  | 0, c, blank => ([], c.place, blank)
  | fuel + 1, c, blank =>
    let line := c.rest.take (lineLength c.rest)
    let next := c.place.advance line.length
    let entry := (verbatim c.spaces line, next.pos, blank)
    let (inside, c) := continueLine outer next
    let (indent, c) := c.columns 4
    if !inside || (indent < 4 && !c.atEnd) then ([entry], next, blank)
    else if c.rest = [] then ([entry], c.place, blank)
    else
      let (lines, p, blank) := indentedLines outer fuel c (isBlankLine c.rest)
      (entry :: lines, p, blank)

/-- The block of an indented line, without the blank lines at its end. -/
def readIndented (outer : List Container) (c : Cursor) : Node × Place × Bool :=
  let (lines, p, blank) := indentedLines outer c.rest.length c false
  let lines := (lines.reverse.dropWhile (·.2.2)).reverse
  let text := String.ofList (lines.flatMap (·.1))
  (.block (.code none text) c.place ((lines.getLast?.map (·.2.1)).getD p.pos) [], p, blank)

/-- The text between fences and what follows. The fuel is the length of the text. -/
def fencedText (outer : List Container) (fence : Fence) (indent : Nat) : Nat → Place →
    List Char × Place
  | 0, p => ([], p)
  | fuel + 1, p =>
    let (inside, c) := continueLine outer p
    if !inside then ([], p)
    else
      let c := c.dropColumns indent
      let (n, closing) := c.columns (4 - indent)
      match if n < 4 - indent then fence.closing? closing.rest else none with
      | some n =>
        let p := closing.place.advance n
        ([], p.advance ((blankLine? p.rest).getD 0))
      | none =>
        let line := c.rest.take (lineLength c.rest)
        let (text, p) := fencedText outer fence indent fuel (c.place.advance line.length)
        (verbatim c.spaces line ++ text, p)

def readFenced (outer : List Container) (fence : Fence) (indent : Nat) (p : Place) :
    Node × Place :=
  let line := p.rest.take (lineLength p.rest)
  let info := unescape false (trimBlanksEnd ((line.drop fence.count).dropWhile isGap))
  let (text, last) := fencedText outer fence indent (p.rest.length + 1) (p.advance line.length)
  (.block (.code (some info) (String.ofList text)) p last.pos [], last)

/-- The text of a block of HTML and what follows. The fuel is the length of the text. -/
def htmlText (outer : List Container) (ending : HtmlEnd) : Nat → Place → Nat →
    List Char × Place
  | 0, p, _ => ([], p)
  | fuel + 1, p, spaces =>
    let line := p.rest.take (lineLength p.rest)
    let text := verbatim spaces line
    let next := p.advance line.length
    let (inside, c) := continueLine outer next
    let ended := match ending with
      | .mark chars => (after? chars line).isSome || c.rest = []
      | .blank => isBlankLine c.rest
    if !inside || ended then (text, next)
    else
      let (more, p) := htmlText outer ending fuel c.place c.spaces
      (text ++ more, p)

def readHtml (outer : List Container) (ending : HtmlEnd) (indent : Nat) (p : Place) :
    Node × Place :=
  let (text, last) := htmlText outer ending p.rest.length p indent
  (.block (.html (String.ofList text)) p last.pos [], last)

/-- The length of a heading without the number signs and the spaces at its end. -/
def headingLength (l : List Char) : Nat :=
  let shown := (l.reverse.dropWhile fun c => c = ' ' || isBreak c).reverse
  let inner := shown.reverse.dropWhile (· = '#')
  match inner with
  | [] => 0
  | c :: _ => if c = ' ' then (inner.dropWhile (· = ' ')).length else shown.length

def setLast (stop : Nat) : List Span → List Span
  | [] => []
  | [s] => [{ s with stop := stop }]
  | s :: rest => s :: setLast stop rest

/-- A backslash before a line end is text unless the paragraph goes on. -/
def LineStop.asText : LineStop → List Span
  | .lineBreak ⟨start, _, .hardBreak true⟩ => [⟨start, start.pos + 1, .text⟩]
  | _ => []

/-- Reads a heading that begins with number signs. -/
def readHeading (outer : List Container) (level : Nat) (p : Place) : Node × Place :=
  let start := (p.advance level).skipWhile isGap
  match lineEnd? start.rest with
  | some n => (.block (.heading level) p (start.pos + n) [], start.advance n)
  | none =>
    let (spans, last, stop) := readLine outer .plain start
    let length := headingLength (start.textTo last.pos)
    let spans := setLast (start.pos + length) (spans ++ stop.asText)
    (.ofSpans (.heading level) p last.pos spans, last)

/-- The cells of a row and what follows it. The fuel is the length of the text. -/
def rowCells (outer : List Container) : Nat → Place → List Node × Place
  | 0, p => ([], p)
  | fuel + 1, p =>
    let start := if p.rest.head? = some '|' then p.next else p
    let content := start.skipWhile isGap
    match lineEnd? content.rest with
    | some n => ([], content.advance n)
    | none =>
      let (spans, last, _) := readLine outer .cell content
      let (cells, next) := rowCells outer fuel last
      (.ofSpans .tableCell start last.pos spans :: cells, next)

/-- A row of a table with `n` columns, if it has cells at all, and what follows it. -/
def readRow? (outer : List Container) (kind : BlockKind) (n : Nat) (p : Place) :
    Option (Node × Place) :=
  let (cells, last) := rowCells outer (p.rest.length + 1) p
  let missing := List.replicate (n - cells.length) (Node.block .tableCell last last.pos [])
  if cells = [] then none
  else some (.block kind p last.pos (cells.take n ++ missing), last)

/-- The rows of a table and what follows them. The fuel is the length of the text. -/
def tableRows (outer : List Container) (n : Nat) : Nat → Place → List Node × Place
  | 0, p => ([], p)
  | fuel + 1, p =>
    let (inside, c) := continueLine outer p
    let start := c.skipIndentation.place
    if !inside || interrupts false start.rest then ([], p)
    else match readRow? outer .tableRow n start with
      | none => ([], p)
      | some (row, next) =>
        let (rows, last) := tableRows outer n fuel next
        (row :: rows, last)

/-- Reads a table whose row of headings stands at `head` and whose other rows stand below
`body`. -/
def readTable (outer : List Container) (columns : List Alignment) (head body : Place) :
    Node × Place :=
  let header := (readRow? outer .tableHead columns.length head).map (·.1)
  let (rows, last) := tableRows outer columns.length body.rest.length body
  (.block (.table columns) head last.pos (header.toList ++ rows), last)

/-- Reads a paragraph, or what its lines turn out to be, from a line on. `spans` are those of
the lines before it. The fuel is the length of the text. -/
def paragraphLines (outer : List Container) (start : Place) : Nat → Place → List Span →
    Node × Place
  | 0, p, spans => (.ofSpans .paragraph start p.pos spans, p)
  | fuel + 1, p, spans =>
    let mode : LineMode := if p.pos = start.pos then .first else .plain
    let (line, next, stop) := readLine outer mode p
    match stop with
    | .table columns => readTable outer columns p next
    | _ =>
      let spans := spans ++ line
      let (inside, c) := continueLine outer next
      let (indent, c) := c.columns 4
      match if inside && indent < 4 then underline? c.rest else none with
      | some (level, n) =>
        let last := c.place.advance n
        (.ofSpans (.heading level) start last.pos (spans ++ stop.asText), last)
      | none =>
        let below := c.skipIndentation
        if (indent < 4 && endsParagraph outer inside c.place) || below.atEnd then
          (.ofSpans .paragraph start next.pos (spans ++ stop.asText), next)
        else
          let lineBreak := match stop with
            | .lineBreak s => [s]
            | _ => []
          paragraphLines outer start fuel below.place (spans ++ lineBreak)

def readParagraph (outer : List Container) (p : Place) : Node × Place :=
  paragraphLines outer p (p.rest.length + 1) p []

namespace Draft

/-- Reads definitions of links, and the paragraph that they stand before. The fuel is the
length of the text. -/
def readText : Nat → Draft → Place → Draft × Place
  | 0, d, p => (d, p)
  | fuel + 1, d, p =>
    let letters := if p.rest.head? = some '[' then paragraphText d.containers p else []
    match definition? (chars letters) with
    | none =>
      let (node, last) := readParagraph d.containers p
      (d.add node, last)
    | some (definition, rest) =>
      let d := { d with definitions := d.definitions ++ [definition] }
      let p := p.atPos (endPos p.pos (splitBefore letters rest).1)
      let next := p.advance ((blankLine? p.rest).getD 0)
      let (inside, c) := continueLine d.containers next
      let (indent, c) := c.columns 4
      if (blankLine? p.rest).isNone ||
          (indent < 4 && endsParagraph d.containers inside c.place) then (d, next)
      else d.readText fuel c.skipIndentation.place

/-- Reads the block that a line starts with, after the containers that it opens. -/
def readLeaf (d : Draft) (start : Place) (c : Cursor) : Draft × Place :=
  let d := d.beginBlock start.pos
  let outer := d.containers
  let (indent, c) := c.columns 4
  let p := c.place
  let added := fun (node, last) => (d.add node, last)
  if indent = 4 then
    let (node, last, blank) := readIndented outer c
    ({ d.add node with blank := blank }, last)
  else match htmlStart? p.rest with
    | some ending => added (readHtml outer ending indent p)
    | none =>
      match rule? p.rest with
      | some n => (d.add (.block .rule p (p.pos + n) []), p.advance n)
      | none =>
        match headingLevel? p.rest with
        | some level => added (readHeading outer level p)
        | none =>
          match openingFence? p.rest with
          | some fence => added (readFenced outer fence indent p)
          | none => d.readText (p.rest.length + 1) p

/-- Opens the containers that a line starts, and tells whether the line ends with the mark
of an item. An item begins with its indentation. The fuel is the length of the text. -/
def openContainers (lineStart : Nat) : Nat → Draft → Cursor → Draft × Cursor × Bool
  | 0, d, c => (d, c, false)
  | fuel + 1, d, c =>
    let (indent, inner) := c.columns 4
    let start := inner.place
    let mark := if (rule? inner.rest).isSome then none else listMark? inner.rest
    if indent = 4 then (d, c, false)
    else match mark, inner.quoteMark? with
      | some m, _ =>
        let itemStart := start.back indent
        let d := d.beginItem m itemStart
        let content := { inner with place := start.advance m.length }.dropColumns 1
        let width := indent + m.length + 1
        match blankLine? content.rest with
        | some n =>
          let next := content.place.advance n
          ({ d.openFrame (.item width) itemStart with hollow := some next.pos },
            { content with place := next }, true)
        | none =>
          let (gap, indented) := content.columns 4
          let (width, content) := if gap = 4 then (width, content) else (width + gap, indented)
          openContainers lineStart fuel (d.openFrame (.item width) itemStart) content
      | none, some quoted =>
        openContainers lineStart fuel ((d.beginBlock lineStart).openFrame .quote start) quoted
      | none, none => (d, c, false)

/-- Reads the block or the blank line at a place, and gives what follows it. -/
def readBlock (d : Draft) (p : Place) : Draft × Place :=
  let (n, c) := continued d.containers (.ofLine p)
  let (d, c, ended) := (d.closeTo n p.pos).openContainers p.pos p.rest.length c
  if ended then (d, c.place)
  else match blankLine? c.rest with
    | some n => (d.blankLine, c.place.advance n)
    | none => d.readLeaf p c

/-- The fuel is the length of the text, of which every block takes a character at least. -/
def readBlocks : Nat → Draft → Place → Draft
  | 0, d, p => d.closeTo 0 p.pos
  | fuel + 1, d, p =>
    if p.rest = [] then d.closeTo 0 p.pos
    else
      let (d, p) := d.readBlock p
      readBlocks fuel d p

end Draft

/-- The blocks of a text and the definitions in it. -/
def readBlocks (text : List Char) : List Node × List Definition :=
  let d := Draft.readBlocks text.length {} (.ofText text)
  (d.nodes.reverse, d.definitions)

end ShellDocs.Markdown
