import ShellDocs.Markdown.Destination
import ShellDocs.Markdown.Mark
import ShellDocs.Markdown.Node

/-! # Open containers

While a document is read, blocks are added to the innermost open container. Items of one
mark make a list, which is tight unless a blank line stands between two blocks in it.
-/

namespace ShellDocs.Markdown

/-- An open container with the nodes in it, in reverse. -/
structure Frame where
  container : Container
  start : Place
  nodes : List Node := []

def Frame.node (f : Frame) (stop : Nat) : Node :=
  let nodes := f.nodes.reverse
  let nodes := match f.container with
    | .list _ _ true => nodes.map Node.tightened
    | _ => nodes
  .block (.container f.container) f.start stop nodes

def Frame.loosened (f : Frame) : Frame :=
  match f.container with
  | .list mark start _ => { f with container := .list mark start false }
  | _ => f

/-- What has been read: finished nodes in reverse, open containers, the innermost first,
whether a blank line came last, where an item ends of which only the mark has been read, and
the definitions of links. -/
structure Draft where
  nodes : List Node := []
  frames : List Frame := []
  blank : Bool := false
  hollow : Option Nat := none
  definitions : List Definition := []

namespace Draft

/-- The open containers, the outermost first. -/
def containers (d : Draft) : List Container := d.frames.reverse.map (·.container)

def add (d : Draft) (n : Node) : Draft :=
  match d.frames with
  | [] => { d with nodes := n :: d.nodes }
  | f :: rest => { d with frames := { f with nodes := n :: f.nodes } :: rest }

def openFrame (d : Draft) (k : Container) (start : Place) : Draft :=
  { d with frames := ⟨k, start, []⟩ :: d.frames }

/-- Closes the innermost container. -/
def closeFrame (d : Draft) (stop : Nat) : Draft :=
  match d.frames with
  | [] => d
  | f :: rest =>
    let hollow := match f.container with
      | .list _ _ true => none
      | _ => d.hollow
    { d with frames := rest, hollow := hollow }.add (f.node stop)

def closeFrames (stop : Nat) : Nat → Draft → Draft
  | 0, d => d
  | n + 1, d => closeFrames stop n (d.closeFrame stop)

/-- Closes all containers but the outermost `n`. -/
def closeTo (d : Draft) (n stop : Nat) : Draft := closeFrames stop (d.frames.length - n) d

/-- An item can begin with one blank line at most. -/
def endHollow (d : Draft) : Draft :=
  let closed := match d.hollow, d.frames with
    | some stop, ⟨.item _, _, _⟩ :: _ => if d.blank then d.closeFrame stop else d
    | _, _ => d
  { closed with hollow := none }

/-- Makes ready for a block: a list in which no item is open ends, and a list is loose when
a blank line stands before a block of its item. -/
def beginBlock (d : Draft) (stop : Nat) : Draft :=
  let d := d.endHollow
  let d := match d.frames with
    | ⟨.list _ _ _, _, _⟩ :: _ => d.closeFrame stop
    | _ => d
  match d.blank, d.frames with
  | true, f :: list :: rest => { d with frames := f :: list.loosened :: rest, blank := false }
  | _, _ => { d with blank := false }

def beginList (d : Draft) (m : ListMark) (start : Place) : Draft :=
  { (d.beginBlock start.pos).openFrame (.list m.mark m.start true) start with blank := false }

/-- Makes ready for an item: it belongs to the list in which no item is open, if the marks
agree. -/
def beginItem (d : Draft) (m : ListMark) (start : Place) : Draft :=
  let d := d.endHollow
  match d.frames with
  | list :: rest =>
    match list.container with
    | .list mark _ _ =>
      if mark = m.mark then
        if d.blank then { d with frames := list.loosened :: rest, blank := false } else d
      else d.beginList m start
    | _ => d.beginList m start
  | [] => d.beginList m start

/-- Reads a blank line. Behind an item that is still hollow no indentation is needed. -/
def blankLine (d : Draft) : Draft :=
  match d.frames with
  | [] => { d with blank := true }
  | f :: rest =>
    match f.container, d.hollow with
    | .quote, _ => d
    | .item _, some _ =>
      { d with blank := true, frames := { f with container := .item 0 } :: rest }
    | _, _ => { d with blank := true }

end Draft

end ShellDocs.Markdown
