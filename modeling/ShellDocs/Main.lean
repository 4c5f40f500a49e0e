import ShellDocs.CommandLine.Generator
import ShellDocs.CommandLine.Server
import ShellDocs.Files.Snapshot

/-! # The command line

The first argument names one of the two programs, the others are its arguments. Standard
input lists the files that the program may see, one path on a line. For the preview program
requests follow after an empty line, each a method and a target, and the answers go to
standard output.
-/

namespace ShellDocs

open Files

/-- The lines up to an empty line or the end. -/
partial def readLines (input : IO.FS.Stream) : IO (List String) := do
  let line := (← input.getLine).trimAsciiEnd.copy
  if line.isEmpty then return [] else return line :: (← readLines input)

def readTree (input : IO.FS.Stream) : IO FileTree := do
  let files ← (← readLines input).mapM fun (path : String) => do
    return (path, ← IO.FS.readBinFile path)
  return .ofFiles (toString (← IO.currentDir)) files

def save (change : Location × Node) : IO Unit := do
  let path := "/" ++ "/".intercalate change.1
  match change.2 with
  | .directory => IO.FS.createDirAll path
  | .file contents => IO.FS.writeBinFile path contents
  | .link _ => return

def saveChanges (before after : FileTree) : IO Unit :=
  (before.changes after).forM save

def leave (e : CommandLine.Exit) : IO UInt32 := do
  IO.print e.output
  IO.eprint e.errors
  return UInt32.ofNat e.code

def methodOf (name : String) : Preview.Method :=
  if name = "GET" then .get else if name = "HEAD" then .head else .other

/-- Answers a request, which is written as its method and its target. -/
def answerRequest (site : Preview.Site) (t : FileTree) (output : IO.FS.Stream)
    (line : String) : IO Unit := do
  match line.splitOn " " with
  | [method, target] =>
    match site.request? t (methodOf method) target with
    | some r =>
      output.putStrLn (toString r.status)
      output.write r.body
    | none => output.putStrLn "400"
  | _ => output.putStrLn "400"

def preview (input : IO.FS.Stream) (args : List String) : IO UInt32 := do
  let before ← readTree input
  let (after, r) := CommandLine.Server.prepare before args
  saveChanges before after
  match r with
  | .error e => leave e
  | .ok l =>
    IO.print l.greeting
    let output ← IO.getStdout
    (← readLines input).forM (answerRequest l.site after output)
    return 0

def generateOnce (input : IO.FS.Stream) (args : List String) : IO UInt32 := do
  let before ← readTree input
  let (after, e) := CommandLine.Generator.run before args
  saveChanges before after
  leave e

end ShellDocs

def main (args : List String) : IO UInt32 := do
  let input ← IO.getStdin
  match args with
  | "scriptdoc" :: rest => ShellDocs.generateOnce input rest
  | "scriptdoc-serve" :: rest => ShellDocs.preview input rest
  | _ =>
    IO.eprintln "usage: scriptdoc | scriptdoc-serve, followed by the options of the program"
    return 2
