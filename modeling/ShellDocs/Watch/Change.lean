import ShellDocs.Scan.Script

/-! # Changes of files

A change counts when it creates, modifies or removes a script.
-/

namespace ShellDocs.Watch

inductive ChangeKind where
  | create
  | modify
  | remove
  | other
deriving DecidableEq

structure Change where
  kind : ChangeKind
  paths : List String
deriving DecidableEq

def Change.affectsScripts (c : Change) : Bool := c.kind ≠ .other && c.paths.any isScript

end ShellDocs.Watch
