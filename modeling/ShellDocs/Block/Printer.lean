import ShellDocs.Fields

/-! # Writing a documentation block

Each field takes one line, in the order of the names. The path of the script is no part of
its block.
-/

namespace ShellDocs.Block

def printField (name value : String) : String :=
  if value = "" then "# @" ++ name ++ ":\n" else "# @" ++ name ++ ": " ++ value ++ "\n"

/-- The fields that a block holds. -/
def source (f : Fields) : Fields := f.erase Fields.pathName

def print (f : Fields) : String :=
  "# @doc\n" ++ String.join ((source f).entries.map (fun e => printField e.1 e.2)) ++
    "# @/doc\n"

end ShellDocs.Block
