import ShellDocs.Error

/-! # Notices

What the library reports while it works.
-/

namespace ShellDocs

inductive Notice where
  | documented (script : String)
  | undocumented (path : String)
  | scriptSkipped (e : Error)
  | entrySkipped (e : WalkError)
  | groupSkipped (group file : String)
  | generated (scripts : Nat) (output : String)
  | changeDetected
  | regenerated (scripts : Nat)
  | regenerationFailed (e : Error)
  | regenerationPanicked (error : String)
deriving DecidableEq

/-- A notice on one line: its level, its message and its values. -/
def Notice.line : Notice → String
  | documented script => "DEBUG documented script=" ++ script
  | undocumented path => "DEBUG no @doc block path=" ++ path
  | scriptSkipped e => "WARN skipping script error=" ++ e.message
  | entrySkipped e => "WARN skipping unreadable entry error=" ++ e.message
  | groupSkipped group file =>
    "WARN group page name already in use, skipping group=" ++ group ++ " file=" ++ file
  | generated scripts output =>
    "INFO documentation generated scripts=" ++ toString scripts ++ " output=" ++ output
  | changeDetected => "INFO change detected, regenerating documentation"
  | regenerated scripts => "INFO documentation regenerated scripts=" ++ toString scripts
  | regenerationFailed e => "ERROR documentation regeneration failed error=" ++ e.message
  | regenerationPanicked error => "ERROR regeneration task failed error=" ++ error

end ShellDocs
