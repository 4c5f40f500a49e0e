import ShellDocs.CommandLine.Exit
import ShellDocs.Config.Load
import ShellDocs.Preview.Server

/-! # The preview program

Prepares the directory of the pages and then serves it. Everything up to the point where it
would listen is here.
-/

namespace ShellDocs.CommandLine.Server

open Files

def program : Program where
  name := "scriptdoc-serve"
  about := "Serve the generated script documentation locally"
  flags := [
    ⟨'p', "port", some .port, "Port to listen on [default: 8000]"⟩,
    ⟨'d', "docs-dir", some .path,
      "Directory with the generated pages [default: docs/generated]"⟩,
    ⟨'i', "input", some .path, "Directory scanned for .sh files [default: MacOS/Components]"⟩,
    ⟨'w', "watch", none, "Regenerate the pages when a script changes"⟩,
    ⟨'r', "regenerate", none, "Regenerate the pages before serving"⟩,
    ⟨'v', "verbose", none, "Log at debug level"⟩,
    ⟨'c', "config", some .path,
      "Configuration file (defaults to ./scriptdoc.toml when present)"⟩]

def overrides (g : Given) : Overrides where
  input := g.value? "input"
  output := g.value? "docs-dir"
  port := (g.value? "port").bind port?

/-- The configuration for the flags that are given. -/
def settings (t : FileTree) (g : Given) (parse : Toml.Parser := Toml.parse?) :
    Except Error Config :=
  (Config.load t (g.value? "config") parse).map (·.override (overrides g))

/-- A server that is ready to listen. -/
structure Listening where
  site : Preview.Site
  port : UInt16

def Listening.greeting (l : Listening) : String :=
  "Serving documentation at http://localhost:" ++ toString l.port.toNat ++
    " (Ctrl+C to stop)\n"

/-- The error of a watch on a path, which counts from the working directory. -/
def watchError? (t : FileTree) (path : String) : Option IoError :=
  match t.resolve (Path.join "." path) with
  | .error e => some e
  | .ok (.vacant _ _) => some .notFound
  | .ok _ => none

/-- Generates the pages if this is asked for. -/
def regenerate (t : FileTree) (g : Given) (c : Config) : FileTree × Except Failure Unit :=
  if g.has "regenerate" then
    let o := generate t c.generateOptions
    (o.tree, match o.result with
      | .error e => .error (.during "failed to generate documentation" e)
      | .ok _ => .ok ())
  else (t, .ok ())

/-- Makes the directory of the pages and checks that the scripts can be watched. -/
def open? (t : FileTree) (g : Given) (c : Config) : FileTree × Except Failure Listening :=
  match t.createDirectories c.output with
  | (u, .error e) =>
    (u, .error ⟨"failed to create docs directory: " ++ c.output, [e.message]⟩)
  | (u, .ok ()) =>
    match if g.has "watch" then watchError? u c.input else none with
    | some e => (u, .error ⟨"failed to watch " ++ c.input, [e.message]⟩)
    | none => (u, .ok ⟨⟨c.output, c.pages.title⟩, c.port⟩)

def prepareGiven (t : FileTree) (g : Given) (parse : Toml.Parser := Toml.parse?) :
    FileTree × Except Failure Listening :=
  match settings t g parse with
  | .error e => (t, .error (.during "failed to load configuration" e))
  | .ok c =>
    match regenerate t g c with
    | (u, .error f) => (u, .error f)
    | (u, .ok ()) => open? u g c

/-- What comes before listening, or how the program ends without it. -/
def prepare (t : FileTree) (args : List String) (parse : Toml.Parser := Toml.parse?) :
    FileTree × Except Exit Listening :=
  match program.read args with
  | .error stop => (t, .error (.stopped program stop))
  | .ok g =>
    match prepareGiven t g parse with
    | (u, .error f) => (u, .error { code := 1, errors := "Error: " ++ f.report ++ "\n" })
    | (u, .ok l) => (u, .ok l)

end ShellDocs.CommandLine.Server
