import ShellDocs.Markdown.Event
import ShellDocs.Text.Utf8

/-! # Writing HTML

The events of a document become HTML. Block elements begin on a line of their own.
-/

namespace ShellDocs.Markdown

def escapeTextChar : Char → String
  | '&' => "&amp;"
  | '<' => "&lt;"
  | '>' => "&gt;"
  | c => c.toString

/-- Text between tags. Quotation marks stay. -/
def escapeText (s : String) : String := String.join (s.toList.map escapeTextChar)

def escapeValueChar : Char → String
  | '"' => "&quot;"
  | '\'' => "&#39;"
  | c => escapeTextChar c

/-- The value of an attribute. -/
def escapeValue (s : String) : String := String.join (s.toList.map escapeValueChar)

def isTargetChar (c : Char) : Bool := c.isAlphanum || "!#$%()*+,-./:;=?@^_~".contains c

def hexUpper (n : Nat) : Char := ("0123456789ABCDEF".toList[n]?).getD '0'

def percent (b : UInt8) : String :=
  String.ofList ['%', hexUpper (b.toNat / 16), hexUpper (b.toNat % 16)]

def escapeTargetChar (c : Char) : String :=
  if isTargetChar c then c.toString
  else if c = '&' then "&amp;"
  else if c = '\'' then "&#x27;"
  else String.join (c.toString.toUTF8.toList.map percent)

/-- The target of a link. Bytes that may not stand in one are written as numbers. -/
def escapeTarget (s : String) : String := String.join (s.toList.map escapeTargetChar)

/-- An image whose alternative text is being written, within `depth` elements. -/
structure OpenImage where
  depth : Nat
  title : String

/-- HTML while it is written: whether a line has just ended, and the place in a table or in
the alternative text of an image. -/
structure Writer where
  out : String := ""
  lineEnded : Bool := true
  columns : List Alignment := []
  inHead : Bool := false
  cell : Nat := 0
  image : Option OpenImage := none

namespace Writer

def write (w : Writer) (s : String) : Writer :=
  if s = "" then w else { w with out := w.out ++ s, lineEnded := s.back = '\n' }

/-- Writes what begins on a line of its own. -/
def writeFresh (w : Writer) (s : String) : Writer :=
  (if w.lineEnded then w else w.write "\n").write s

def titleAttribute (title : String) : String :=
  if title = "" then "" else "\" title=\"" ++ escapeValue title

def headingClasses (classes : List String) : String :=
  if classes.isEmpty then ""
  else " class=\"" ++ " ".intercalate (classes.map escapeValue) ++ "\""

/-- An attribute without a value is written with an empty one. -/
def headingAttribute (a : String × Option String) : String :=
  " " ++ escapeValue a.1 ++ "=\"" ++ (a.2.map escapeValue).getD "" ++ "\""

def alignment : Alignment → String
  | .none => ">"
  | .left => " style=\"text-align: left\">"
  | .center => " style=\"text-align: center\">"
  | .right => " style=\"text-align: right\">"

/-- The language of a code block is the first word of its info string. -/
def language (info : String) : String :=
  String.ofList (info.toList.takeWhile (· ≠ ' '))

def startTag (w : Writer) : Tag → Writer
  | .paragraph => w.writeFresh "<p>"
  | .heading level id classes attributes =>
    w.writeFresh ("<h" ++ toString level ++
      (match id with
        | some id => " id=\"" ++ escapeValue id ++ "\""
        | none => "") ++ headingClasses classes ++
      String.join (attributes.map headingAttribute) ++ ">")
  | .quote => w.writeFresh "<blockquote>\n"
  | .code info =>
    let language := language (info.getD "")
    w.writeFresh (if language = "" then "<pre><code>"
      else "<pre><code class=\"language-" ++ escapeValue language ++ "\">")
  | .list none => w.writeFresh "<ul>\n"
  | .list (some n) =>
    w.writeFresh (if n = 1 then "<ol>\n" else "<ol start=\"" ++ toString n ++ "\">\n")
  | .item => w.writeFresh "<li>"
  | .table columns => { w.write "<table>" with columns := columns }
  | .tableHead => { w.write "<thead><tr>" with inHead := true, cell := 0 }
  | .tableRow => { w.write "<tr>" with cell := 0 }
  | .tableCell =>
    w.write ((if w.inHead then "<th" else "<td") ++ alignment ((w.columns[w.cell]?).getD .none))
  | .emphasis => w.write "<em>"
  | .strong => w.write "<strong>"
  | .strikethrough => w.write "<del>"
  | .link target title =>
    w.write ("<a href=\"" ++ escapeTarget target ++ titleAttribute title ++ "\">")
  | .mail address => w.write ("<a href=\"mailto:" ++ escapeTarget address ++ "\">")
  | .image target title =>
    { w.write ("<img src=\"" ++ escapeTarget target ++ "\" alt=\"") with
      image := some ⟨0, title⟩ }

def stopTag (w : Writer) : Tag → Writer
  | .paragraph => w.write "</p>\n"
  | .heading level .. => w.write ("</h" ++ toString level ++ ">\n")
  | .quote => w.write "</blockquote>\n"
  | .code _ => w.write "</code></pre>\n"
  | .list none => w.write "</ul>\n"
  | .list (some _) => w.write "</ol>\n"
  | .item => w.write "</li>\n"
  | .table _ => w.write "</tbody></table>\n"
  | .tableHead => { w.write "</tr></thead><tbody>\n" with inHead := false }
  | .tableRow => w.write "</tr>\n"
  | .tableCell => { w.write (if w.inHead then "</th>" else "</td>") with cell := w.cell + 1 }
  | .emphasis => w.write "</em>"
  | .strong => w.write "</strong>"
  | .strikethrough => w.write "</del>"
  | .link _ _ | .mail _ => w.write "</a>"
  | .image _ _ => w

/-- An event within the alternative text of an image, of which only text remains. -/
def imageEvent (w : Writer) (image : OpenImage) : Event → Writer
  | .start _ => { w with image := some { image with depth := image.depth + 1 } }
  | .stop _ =>
    match image.depth with
    | 0 => { w.write (titleAttribute image.title ++ "\" />") with image := none }
    | depth + 1 => { w with image := some { image with depth := depth } }
  | .text s | .code s | .inlineHtml s => w.write (escapeValue s)
  | .html _ => w
  | .softBreak | .hardBreak | .rule => w.write " "

def event (w : Writer) (e : Event) : Writer :=
  match w.image with
  | some image => w.imageEvent image e
  | none =>
    match e with
    | .start tag => w.startTag tag
    | .stop tag => w.stopTag tag
    | .text s => w.write (escapeText s)
    | .code s => w.write ("<code>" ++ escapeText s ++ "</code>")
    | .html s | .inlineHtml s => w.write s
    | .softBreak => w.write "\n"
    | .hardBreak => w.write "<br />\n"
    | .rule => w.writeFresh "<hr />\n"

end Writer

def toHtml (events : List Event) : String := (events.foldl Writer.event {}).out

end ShellDocs.Markdown
