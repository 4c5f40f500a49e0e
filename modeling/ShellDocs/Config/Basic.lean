import ShellDocs.Generate
import ShellDocs.Watch.Throttle

/-! # Configuration

What both programs can be told, in a file or on the command line. Every setting has a
default.
-/

namespace ShellDocs

structure Config where
  /-- The directory that is searched for scripts. -/
  input : String := "MacOS/Components"
  /-- The directory of the pages. -/
  output : String := "docs/generated"
  pages : Page.Options := {}
  port : UInt16 := 8000
  /-- The least number of seconds between two runs. -/
  throttleSeconds : Nat := 2
deriving DecidableEq

/-- Settings that are given on the command line. -/
structure Overrides where
  input : Option String := none
  output : Option String := none
  port : Option UInt16 := none
deriving DecidableEq

namespace Config

def override (c : Config) (o : Overrides) : Config :=
  { c with
    input := o.input.getD c.input
    output := o.output.getD c.output
    port := o.port.getD c.port }

def generateOptions (c : Config) : GenerateOptions := ⟨c.input, c.output, c.pages⟩

def throttle (c : Config) : Watch.Throttle where
  minInterval := c.throttleSeconds * 1000000000

end Config

end ShellDocs
