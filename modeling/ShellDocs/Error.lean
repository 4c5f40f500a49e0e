import ShellDocs.Config.Fault
import ShellDocs.Files.Error

/-! # Errors -/

namespace ShellDocs

open Files

inductive Error where
  | read (path : String) (cause : IoError)
  | inputNotFound (path : String)
  | nothingToDocument (input : String)
  | write (path : String) (cause : IoError)
  | configRead (path : String) (cause : IoError)
  | configInvalid (path : String) (fault : ConfigFault)
deriving DecidableEq

def Error.message : Error → String
  | read path cause => "failed to read " ++ path ++ ": " ++ cause.message
  | inputNotFound path => "input directory not found: " ++ path
  | nothingToDocument input => "no documented scripts found in " ++ input
  | write path cause => "failed to write " ++ path ++ ": " ++ cause.message
  | configRead path cause => "failed to read config " ++ path ++ ": " ++ cause.message
  | configInvalid path fault => "invalid config " ++ path ++ ": " ++ fault.message

/-- What the causes of an error say. -/
def Error.causes : Error → List String
  | read _ cause | write _ cause | configRead _ cause => [cause.message]
  | configInvalid _ fault => [fault.message]
  | inputNotFound _ | nothingToDocument _ => []

/-- Why an entry of a walked tree gives nothing. -/
inductive WalkError where
  | loop (path ancestor : String)
  | io (path : String) (cause : IoError)
deriving DecidableEq

def WalkError.message : WalkError → String
  | loop path ancestor =>
    "File system loop found: " ++ path ++ " points to an ancestor " ++ ancestor
  | io path cause => "IO error for operation on " ++ path ++ ": " ++ cause.message

end ShellDocs
