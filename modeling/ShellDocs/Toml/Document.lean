import ShellDocs.Toml.ValueReader

/-! # TOML documents

A document is a list of statements. Pairs go into the table whose header came last.
-/

namespace ShellDocs.Toml

open Reader

inductive Statement where
  | pair (path : KeyPath) (v : Value)
  | header (path : KeyPath)
  /-- A header of one more table in a list. -/
  | listHeader (path : KeyPath)

def readStatement : Reader Statement := do
  if ← accept "[[" then
    let path ← readKeyPath
    expect "]]"
    return .listHeader path
  else if ← accept "[" then
    let path ← readKeyPath
    expect "]"
    return .header path
  else
    let (path, v) ← readPair readValue
    return .pair path v

def beginsNothing (c : Char) : Bool := c = '#' || c = '\n' || c = '\r'

/-- Reads statements that stand one on a line. Every line has at least one character. -/
def readStatements : Nat → Reader (List Statement)
  | 0 => return []
  | fuel + 1 => do
    blanks
    match ← peek with
    | none => return []
    | some c =>
      if beginsNothing c then
        endLine
        readStatements fuel
      else
        let s ← readStatement
        endLine
        return s :: (← readStatements fuel)

/-- The statements of a text. A byte order mark may come first. -/
def statements? (text : String) : Option (List Statement) :=
  let l := text.toList
  let l := if l.head? = some '\uFEFF' then l.drop 1 else l
  (readStatements (l.length + 1) l).map Prod.fst

/-- A document as far as it has been read: its values, and the header that came last. -/
structure Draft where
  root : Table := []
  header : List String := []

def Draft.apply (d : Draft) : Statement → Option Draft
  | .pair path v => do return { d with root := ← d.root.underHeader d.header (·.insert path v) }
  | .header path => do return ⟨← d.root.define path, path.toList⟩
  | .listHeader path => do return ⟨← d.root.extend path, path.toList⟩

/-- The table that a document stands for. -/
def parse? (text : String) : Option Table := do
  let draft ← (← statements? text).foldlM Draft.apply {}
  return draft.root

end ShellDocs.Toml
