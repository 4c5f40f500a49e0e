import ShellDocs.Text.Split

/-! # Names of requested pages

A request path names a file below the served directory. The empty path stands for the
index, and a last segment without a dot gets the extension of a page. A path that could
lead out of the directory names nothing.
-/

namespace ShellDocs.Preview

def trimSlashes (l : List Char) : List Char :=
  ((l.dropWhile (· = '/')).reverse.dropWhile (· = '/')).reverse

/-- A segment that names no file. -/
def isHop (segment : List Char) : Bool := segment = [] || segment = ['.'] || segment = ['.', '.']

def pageName? (path : String) : Option String :=
  let l := trimSlashes path.toList
  let segments := Text.splitOn '/' l
  if l = [] then some "index.md"
  else if '\\' ∈ l ∨ segments.any isHop then none
  else if '.' ∈ segments.getLastD [] then some (String.ofList l)
  else some (String.ofList l ++ ".md")

end ShellDocs.Preview
