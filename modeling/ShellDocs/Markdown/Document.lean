import ShellDocs.Markdown.BlockReader
import ShellDocs.Markdown.InlineReader

/-! # Documents

A text is read as blocks first. The inline content is read with all definitions known.
-/

namespace ShellDocs.Markdown

/-- The events of a block around those of its content. -/
def BlockKind.events (content : List Event) : BlockKind → List Event
  | .paragraph => around .paragraph content
  | .heading level => around (.heading level none) content
  | .rule => [.rule]
  | .code info text => around (.code info) (if text = "" then [] else [.text text])
  | .html text => [.html text]
  | .container .quote => around .quote content
  | .container (.list _ start _) => around (.list start) content
  | .container (.item _) => around .item content
  | .table columns => around (.table columns) content
  | .tableHead => around .tableHead content
  | .tableRow => around .tableRow content
  | .tableCell => around .tableCell content

/-- The containers within a block, of which `outer` are around it. -/
def BlockKind.containers (outer : List Container) : BlockKind → List Container
  | .container k => outer ++ [k]
  | _ => outer

def BlockKind.isTable : BlockKind → Bool
  | .table _ => true
  | _ => false

mutual

/-- A node with the events of the blocks in it. -/
def Node.part (definitions : List Definition) (outer : List Container) (inTable : Bool) :
    Node → Part
  | .span s => .span s
  | .block kind start stop content =>
    let outer := kind.containers outer
    let inTable := inTable || kind.isTable
    let x : Setting := ⟨outer, inTable, stop, definitions⟩
    .block start stop (kind.events (x.read (nodeParts definitions outer inTable content)))

def nodeParts (definitions : List Definition) (outer : List Container) (inTable : Bool) :
    List Node → List Part
  | [] => []
  | n :: rest =>
    n.part definitions outer inTable :: nodeParts definitions outer inTable rest

end

def events (text : String) : List Event :=
  let (nodes, definitions) := readBlocks text.toList
  let x : Setting := ⟨[], false, text.length, definitions⟩
  x.read (nodeParts definitions [] false nodes)

end ShellDocs.Markdown
