import ShellDocs.Text.Split

/-! # Paths as texts

A path is written as segments between slashes. Empty segments and the segment `.` stand for
nothing, except that a path may begin with `.` to be read from where it is used.
-/

namespace ShellDocs.Path

def isAbsolute (path : String) : Bool := path.toList.head? = some '/'

def endsInSlash (path : String) : Bool := path.toList.getLast? = some '/'

/-- All segments as written. -/
def rawSegments (path : String) : List String :=
  (Text.splitOn '/' path.toList).map String.ofList

def segments (path : String) : List String := (rawSegments path).filter (· ≠ "")

/-- The parts of a path that count when paths are compared: a dot counts only where the path
begins with it, and the top of an absolute path is a part. -/
def components (path : String) : List String :=
  let body := (segments path).filter (· ≠ ".")
  if isAbsolute path then "/" :: body
  else if (rawSegments path).head? = some "." then "." :: body
  else body

/-- An absolute name stands for itself. -/
def join (base name : String) : String :=
  if isAbsolute name then name
  else if base = "" ∨ endsInSlash base then base ++ name
  else base ++ "/" ++ name

/-- The last segment, unless it leads upwards. -/
def fileName? (path : String) : Option String :=
  ((segments path).filter (· ≠ ".")).getLast?.filter (· ≠ "..")

/-- What follows the last dot of a file name. A dot that begins the name does not count. -/
def extension? (path : String) : Option String :=
  (fileName? path).bind fun name =>
    match name.toList.reverse.dropWhile (· ≠ '.') with
    | _ :: _ :: _ => some (String.ofList (name.toList.reverse.takeWhile (· ≠ '.')).reverse)
    | _ => none

def isEmptySegment (segment : String) : Bool := segment = "" || segment = "."

/-- The path without its last segment. -/
def parent? (path : String) : Option String :=
  let (lead, body) :=
    match rawSegments path with
    | "" :: rest => if isAbsolute path then ("/", rest) else ("", [])
    | "." :: rest => ("./", rest)
    | rest => ("", rest)
  match body.reverse.dropWhile isEmptySegment with
  | [] => if lead = "./" then some "" else none
  | _ :: rest => some (lead ++ "/".intercalate (rest.dropWhile isEmptySegment).reverse)

end ShellDocs.Path
