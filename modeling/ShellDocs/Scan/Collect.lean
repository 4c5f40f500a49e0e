import ShellDocs.DocSet
import ShellDocs.Notice
import ShellDocs.Scan.Script
import ShellDocs.Scan.Walk

/-! # Collecting documented scripts

A scan documents every script below its root. What cannot be read is reported and left out.
-/

namespace ShellDocs

open Files

/-- What one find of a walk gives: a notice, and a script if it is documented. -/
inductive Finding where
  | documented (script : Script)
  | undocumented (path : String)
  | scriptSkipped (e : Error)
  | entrySkipped (e : WalkError)

/-- The path of a find below the root, as a key. -/
def relativeKey (root path : String) : String :=
  let parts := Path.components path
  let top := Path.components root
  "/".intercalate (if top.isPrefixOf parts then parts.drop top.length else parts)

/-- A file that is no script gives nothing. -/
def finding? (t : FileTree) (root : String) : Found → Option Finding
  | .unreadable e => some (.entrySkipped e)
  | .file path =>
    if isScript path then
      some <| match readScript t path with
        | .ok (some fields) => .documented (relativeKey root path, fields)
        | .ok none => .undocumented path
        | .error e => .scriptSkipped e
    else none

def Finding.script? : Finding → Option Script
  | documented script => some script
  | _ => none

def Finding.notice : Finding → Notice
  | documented script => .documented script.1
  | undocumented path => .undocumented path
  | scriptSkipped e => .scriptSkipped e
  | entrySkipped e => .entrySkipped e

structure Scan where
  docs : DocSet
  log : List Notice

def findings (t : FileTree) (root : String) (loc : Location) : List Finding :=
  (walk t [(loc, root)] loc root).filterMap (finding? t root)

def scan (t : FileTree) (root : String) : Except Error Scan :=
  match t.resolve root with
  | .ok (.directory loc) =>
    let found := findings t root loc
    .ok ⟨OrderedMap.ofList (found.filterMap Finding.script?), found.map Finding.notice⟩
  | _ => .error (.inputNotFound root)

end ShellDocs
