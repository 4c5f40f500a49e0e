/-! # Programs and their flags

A flag has a short and a long name. It is a switch or takes a value. Every program has the
switch `help`, which stands last in the help text.
-/

namespace ShellDocs.CommandLine

inductive ValueKind where
  | path
  | port
deriving DecidableEq

structure Flag where
  short : Char
  long : String
  value : Option ValueKind := none
  about : String
deriving DecidableEq

structure Program where
  name : String
  about : String
  flags : List Flag

namespace Flag

def help : Flag where
  short := 'h'
  long := "help"
  about := "Print help"

/-- The name under which the help text shows the value of a flag. -/
def valueName (f : Flag) : String :=
  f.long.map fun c => if c = '-' then '_' else c.toUpper

def heading (f : Flag) : String :=
  "-" ++ f.short.toString ++ ", --" ++ f.long ++
    match f.value with
    | some _ => " <" ++ f.valueName ++ ">"
    | none => ""

/-- A line of the help text whose headings are as wide as the widest one. -/
def line (width : Nat) (f : Flag) : String :=
  let gap := String.ofList (List.replicate (width - f.heading.length) ' ')
  "  " ++ f.heading ++ gap ++ "  " ++ f.about ++ "\n"

end Flag

def Program.allFlags (p : Program) : List Flag := p.flags ++ [.help]

def Program.helpText (p : Program) : String :=
  let width := (p.allFlags.map fun f => f.heading.length).foldl max 0
  p.about ++ "\n\nUsage: " ++ p.name ++ " [OPTIONS]\n\nOptions:\n" ++
    String.join (p.allFlags.map (Flag.line width))

end ShellDocs.CommandLine
