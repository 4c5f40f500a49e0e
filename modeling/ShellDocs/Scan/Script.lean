import ShellDocs.Block.Reader
import ShellDocs.Error
import ShellDocs.Files.Resolve

/-! # Reading scripts

A script is a file with the extension `sh`. Its fields are those of its block, with the path
under which it was read.
-/

namespace ShellDocs

open Files

def isScript (path : String) : Bool := Path.extension? path = some "sh"

/-- The fields of a script with the given contents. -/
def fieldsOf (path : String) (contents : ByteArray) : Except Error (Option Fields) :=
  match FileTree.textOf contents with
  | .ok text => .ok ((Block.read? text).map (·.insert Fields.pathName path))
  | .error e => .error (.read path e)

def readScript (t : FileTree) (path : String) : Except Error (Option Fields) :=
  match t.readBytes path with
  | .ok contents => fieldsOf path contents
  | .error e => .error (.read path e)

end ShellDocs
