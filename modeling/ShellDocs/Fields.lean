import ShellDocs.OrderedMap

/-! # Fields of a script

The documentation of one script is a map from field names to texts. There is no fixed set
of names. A field with an empty text is recorded but counts as missing.
-/

namespace ShellDocs

abbrev Fields := OrderedMap String String

namespace Fields

/-- The field that records where the script was found. It is not written in scripts. -/
def pathName : String := "file_path"

def defaultCategory : String := "Miscellaneous"

/-- The text of a field, if there is one and it is not empty. -/
def value? (f : Fields) (name : String) : Option String := (f.get? name).filter (· ≠ "")

def title? (f : Fields) : Option String := f.value? "name"

def category (f : Fields) : String := (f.value? "category").getD defaultCategory

end Fields

end ShellDocs
