import ShellDocs.CommandLine.Exit
import ShellDocs.Config.Load

/-! # The generator program

Generates the documentation once and lists the files that it wrote.
-/

namespace ShellDocs.CommandLine.Generator

open Files

def program : Program where
  name := "scriptdoc"
  about := "Generate markdown documentation from @doc blocks in shell scripts"
  flags := [
    ⟨'i', "input", some .path, "Directory scanned for .sh files [default: MacOS/Components]"⟩,
    ⟨'o', "output", some .path,
      "Directory the markdown pages are written to [default: docs/generated]"⟩,
    ⟨'v', "verbose", none, "List every documented script and log at debug level"⟩,
    ⟨'c', "config", some .path,
      "Configuration file (defaults to ./scriptdoc.toml when present)"⟩]

def overrides (g : Given) : Overrides where
  input := g.value? "input"
  output := g.value? "output"

/-- The configuration for the flags that are given. -/
def settings (t : FileTree) (g : Given) (parse : Toml.Parser := Toml.parse?) :
    Except Error Config :=
  (Config.load t (g.value? "config") parse).map (·.override (overrides g))

def summary (verbose : Bool) (output : String) (report : Report) : String :=
  let items := fun (names : List String) =>
    String.join (names.map fun name => "  " ++ name ++ "\n")
  (if verbose then
    "Found " ++ toString report.scripts.length ++ " documented scripts:\n" ++
      items report.scripts
  else "") ++ "Documentation generated in " ++ output ++ "\n" ++ items report.files

def failed (f : Failure) : Exit where
  code := 1
  errors := "error: " ++ f.line ++ "\n"

def unsuccessful : Error → Exit
  | .nothingToDocument _ => { code := 1, errors := "No documented scripts found!\n" }
  | e => failed (.ofError e)

def runGiven (t : FileTree) (g : Given) (parse : Toml.Parser := Toml.parse?) : FileTree × Exit :=
  match settings t g parse with
  | .error e => (t, failed (.during "failed to load configuration" e))
  | .ok c =>
    let o := generate t c.generateOptions
    (o.tree, match o.result with
      | .error e => unsuccessful e
      | .ok report => { output := summary (g.has "verbose") c.output report })

def run (t : FileTree) (args : List String) (parse : Toml.Parser := Toml.parse?) :
    FileTree × Exit :=
  match program.read args with
  | .error stop => (t, .stopped program stop)
  | .ok g => runGiven t g parse

end ShellDocs.CommandLine.Generator
