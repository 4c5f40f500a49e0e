import ShellDocs.Fields

/-! # Documented scripts

The documented scripts of one tree, keyed by their paths below its root, and their two
groupings: by category and by top-level directory.
-/

namespace ShellDocs

abbrev Script := String × Fields

abbrev DocSet := OrderedMap String Fields

/-- The display name of the top-level directory in a path. -/
def directoryGroup (path : String) : String :=
  if '/' ∈ path.toList then
    let directory := String.ofList (path.toList.takeWhile (· ≠ '/'))
    if directory = "Shared" then "Utilities" else directory
  else "Root"

/-- The last segment of a path. -/
def baseName (path : String) : String :=
  String.ofList (path.toList.reverse.takeWhile (· ≠ '/')).reverse

namespace DocSet

def byCategory (docs : DocSet) : OrderedMap String (List Script) :=
  OrderedMap.groupBy (fun s => s.2.category) docs.entries

def byDirectory (docs : DocSet) : OrderedMap String (List Script) :=
  OrderedMap.groupBy (fun s => directoryGroup s.1) docs.entries

end DocSet

end ShellDocs
