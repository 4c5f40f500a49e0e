/-! # Splitting at a separator -/

namespace ShellDocs.Text

/-- The pieces between separators, of which there is at least one. -/
def splitOn (sep : Char) : List Char → List (List Char)
  | [] => [[]]
  | c :: rest =>
    if c = sep then [] :: splitOn sep rest
    else match splitOn sep rest with
      | [] => [[c]]
      | l :: ls => (c :: l) :: ls

end ShellDocs.Text
