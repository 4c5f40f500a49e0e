import ShellDocs.Markdown.Line

/-! # HTML within markdown

Tags, comments and other constructs of HTML that stand in a text, and the starts of HTML
blocks.
-/

namespace ShellDocs.Markdown

def isTagNameChar (c : Char) : Bool := c.isAlphanum || c = '-'

def isAttributeStart (c : Char) : Bool := c.isAlpha || c = '_' || c = ':'

def isAttributeChar (c : Char) : Bool := c.isAlphanum || c = '_' || c = ':' || c = '.' || c = '-'

def isBareValueChar (c : Char) : Bool := !" =><`'\"\n\r".contains c

/-- What follows the first occurrence of a mark. -/
def after? (mark : List Char) : List Char → Option (List Char)
  | [] => if mark = [] then some [] else none
  | c :: rest =>
    if mark.isPrefixOf (c :: rest) then some ((c :: rest).drop mark.length) else after? mark rest

/-- What follows an attribute's value, which stands after an equals sign. -/
def attributeValue? (l : List Char) : Option (List Char) :=
  match l.dropWhile isBlank with
  | '"' :: rest => after? ['"'] rest
  | '\'' :: rest => after? ['\''] rest
  | c :: rest => if isBareValueChar c then some (rest.dropWhile isBareValueChar) else none
  | [] => none

/-- What follows one attribute, if there is one after some space. -/
def attribute? (l : List Char) : Option (List Char) :=
  match l.takeWhile isBlank, l.dropWhile isBlank with
  | _ :: _, c :: rest =>
    if isAttributeStart c then
      let rest := rest.dropWhile isAttributeChar
      match rest.dropWhile isBlank with
      | '=' :: value => attributeValue? value
      | _ => some rest
    else none
  | _, _ => none

def skipAttributes : Nat → List Char → Option (List Char)
  | 0, l => some l
  | fuel + 1, l =>
    match l.dropWhile isBlank with
    | '>' :: _ | '/' :: _ => some l
    | _ => (attribute? l).bind (skipAttributes fuel)

/-- What follows an opening tag whose `<` has been read. -/
def openTag? (l : List Char) : Option (List Char) :=
  match l with
  | c :: rest =>
    if c.isAlpha then
      (skipAttributes l.length (rest.dropWhile isTagNameChar)).bind fun rest =>
        match rest.dropWhile isBlank with
        | '>' :: rest => some rest
        | '/' :: '>' :: rest => some rest
        | _ => none
    else none
  | [] => none

/-- What follows a closing tag whose `<` has been read. -/
def closeTag? (l : List Char) : Option (List Char) :=
  match l with
  | '/' :: c :: rest =>
    if c.isAlpha then
      match (rest.dropWhile isTagNameChar).dropWhile isGap with
      | '>' :: rest => some rest
      | _ => none
    else none
  | _ => none

def tag? (l : List Char) : Option (List Char) := (openTag? l).or (closeTag? l)

def comment? (l : List Char) : Option (List Char) :=
  match l with
  | '!' :: '-' :: '-' :: '>' :: rest => some rest
  | '!' :: '-' :: '-' :: '-' :: '>' :: rest => some rest
  | '!' :: '-' :: '-' :: rest => after? ['-', '-', '>'] rest
  | _ => none

def declaration? (l : List Char) : Option (List Char) :=
  match l with
  | '!' :: c :: rest => if c.isAlpha then after? ['>'] rest else none
  | _ => none

def instruction? (l : List Char) : Option (List Char) :=
  match l with
  | '?' :: rest => after? ['?', '>'] rest
  | _ => none

/-- Character data ends with its first brackets, which an angle bracket must follow. -/
def characterData? (l : List Char) : Option (List Char) :=
  if "![CDATA[".toList.isPrefixOf l then
    match (l.drop 8).dropWhile (· ≠ ']') with
    | ']' :: rest =>
      match rest.dropWhile (· = ']') with
      | '>' :: rest => some rest
      | _ => none
    | _ => none
  else none

/-- What follows a piece of HTML that is no tag and whose `<` has been read. -/
def untagged? (l : List Char) : Option (List Char) :=
  (comment? l).or <| (instruction? l).or <| (characterData? l).or (declaration? l)

/-- How an HTML block ends: with the line that holds a mark, or before a blank line. -/
inductive HtmlEnd where
  | mark (chars : List Char)
  | blank
deriving DecidableEq

def verbatimTags : List (String × String) :=
  [("pre", "</pre>"), ("style", "</style>"), ("script", "</script>"),
    ("textarea", "</textarea>")]

def markedStarts : List (String × String) :=
  [("!--", "-->"), ("?", "?>"), ("![CDATA[", "]]>")]

def blockTags : List String :=
  ["address", "article", "aside", "base", "basefont", "blockquote", "body", "caption",
    "center", "col", "colgroup", "dd", "details", "dialog", "dir", "div", "dl", "dt",
    "fieldset", "figcaption", "figure", "footer", "form", "frame", "frameset", "h1", "h2",
    "h3", "h4", "h5", "h6", "head", "header", "hr", "html", "iframe", "legend", "li", "link",
    "main", "menu", "menuitem", "nav", "noframes", "ol", "optgroup", "option", "p", "param",
    "search", "section", "summary", "table", "tbody", "td", "tfoot", "th", "thead", "title",
    "tr", "track", "ul"]

def lowerAscii (l : List Char) : List Char := l.map Char.toLower

/-- The end of a block that starts with a line whose `<` has been read, and that ends with a
mark. -/
def markedHtml? (l : List Char) : Option HtmlEnd :=
  let tag := verbatimTags.find? fun t =>
    lowerAscii (l.take t.1.length) = t.1.toList &&
      match l.drop t.1.length with
      | [] => true
      | c :: _ => isBlank c || c = '>'
  let start := markedStarts.find? fun t => t.1.toList.isPrefixOf l
  match tag.or start, l with
  | some t, _ => some (.mark t.2.toList)
  | none, '!' :: c :: _ => if c.isAlpha then some (.mark ['>']) else none
  | none, _ => none

/-- A line whose `<` has been read starts with a block-level tag. -/
def startsBlockTag (l : List Char) : Bool :=
  let l := match l with
    | '/' :: rest => rest
    | _ => l
  let name := l.takeWhile Char.isAlphanum
  blockTags.any (·.toList = lowerAscii name) &&
    match l.drop name.length with
    | [] => true
    | '/' :: '>' :: _ => true
    | c :: _ => isIndentation c || isBreak c || c = '>'

/-- A line whose `<` has been read holds one tag and nothing else. -/
def isLoneTag (l : List Char) : Bool :=
  (tag? (l.takeWhile (!isBreak ·))).any isBlankLine

/-- HTML that may stand right after a paragraph. -/
def interruptingHtml? (l : List Char) : Option HtmlEnd :=
  match l with
  | '<' :: rest =>
    (markedHtml? rest).or (if startsBlockTag rest then some .blank else none)
  | _ => none

/-- HTML that starts a block. -/
def htmlStart? (l : List Char) : Option HtmlEnd :=
  (interruptingHtml? l).or <|
    match l with
    | '<' :: rest => if isLoneTag rest then some .blank else none
    | _ => none

end ShellDocs.Markdown
