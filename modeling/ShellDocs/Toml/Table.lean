/-! # TOML tables

A document is a table of named values. A table remembers how it came to be, since this
decides what may still be added to it.
-/

namespace ShellDocs.Toml

inductive TableKind where
  /-- Named by a header of its own. -/
  | header
  /-- Named only by the headers of tables below it. -/
  | implied
  /-- Named only by the dotted keys of its values. -/
  | dotted
  /-- Written between braces. -/
  | inline
deriving DecidableEq

/-- Floats and times are kept as they are written. -/
inductive Value where
  | string (s : String)
  | integer (i : Int)
  | float (written : String)
  | boolean (b : Bool)
  | dateTime (written : String)
  | array (items : List Value)
  | table (kind : TableKind) (entries : List (String × Value))
  | tables (earlier : List (List (String × Value))) (last : List (String × Value))

abbrev Table := List (String × Value)

/-- Makes a table out of a text, if it is a document. -/
abbrev Parser := String → Option Table

/-- The name of a value: the tables around it from the outside, and its key. -/
structure KeyPath where
  tables : List String
  key : String
deriving DecidableEq

def KeyPath.toList (p : KeyPath) : List String := p.tables ++ [p.key]

namespace Table

/-- Gives a key a new value, which depends on the present one. Without a new value the
change is refused. -/
def alter (t : Table) (key : String) (f : Option Value → Option Value) : Option Table :=
  match t with
  | [] => (f none).map fun v => [(key, v)]
  | (k, v) :: rest =>
    if k = key then (f (some v)).map fun w => (k, w) :: rest
    else (alter rest key f).map ((k, v) :: ·)

end Table

/-- Changes a table of an allowed kind. A list of tables stands for its last one. -/
def Value.alterTable (allowed : TableKind → Bool) (f : Table → Option Table) :
    Value → Option Value
  | .table kind entries => if allowed kind then (f entries).map (.table kind) else none
  | .tables earlier last =>
    if allowed .header then (f last).map (.tables earlier) else none
  | _ => none

namespace Table

/-- Changes a table further in. Tables that are missing on the way are made. -/
def alterIn (made : TableKind) (allowed : TableKind → Bool) :
    List String → (Table → Option Table) → Table → Option Table
  | [], f, t => f t
  | key :: path, f, t => t.alter key fun
    | none => (alterIn made allowed path f []).map (.table made)
    | some v => v.alterTable allowed (alterIn made allowed path f)

def add (key : String) (v : Value) (t : Table) : Option Table :=
  t.alter key fun
    | none => some v
    | some _ => none

/-- Adds a value under a dotted key, which may extend only what dotted keys have made. -/
def insert (path : KeyPath) (v : Value) (t : Table) : Option Table :=
  t.alterIn .dotted (· = .dotted) path.tables (add path.key v)

/-- A change in the table that a header names. -/
def underHeader (path : List String) (f : Table → Option Table) (t : Table) : Option Table :=
  t.alterIn .implied (· ≠ .inline) path f

/-- Names a table by a header. This can be done once. -/
def define (path : KeyPath) : Table → Option Table :=
  underHeader path.tables fun t => t.alter path.key fun
    | none => some (.table .header [])
    | some (.table .implied entries) => some (.table .header entries)
    | some _ => none

/-- Adds a table to the list of tables that a header names. -/
def extend (path : KeyPath) : Table → Option Table :=
  underHeader path.tables fun t => t.alter path.key fun
    | none => some (.tables [] [])
    | some (.tables earlier last) => some (.tables (last :: earlier) [])
    | some _ => none

end Table

end ShellDocs.Toml
