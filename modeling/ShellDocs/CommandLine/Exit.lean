import ShellDocs.CommandLine.Arguments
import ShellDocs.Error
import ShellDocs.Text.Split

/-! # How programs end

A program ends with a code and what it writes to its two streams. An error is written with
its causes, on one line or as a list.
-/

namespace ShellDocs.CommandLine

structure Exit where
  code : Nat := 0
  output : String := ""
  errors : String := ""
deriving DecidableEq

/-- An error that ends a program: what went wrong, and its causes. -/
structure Failure where
  message : String
  causes : List String
deriving DecidableEq

def Failure.ofError (e : Error) : Failure := ⟨e.message, e.causes⟩

/-- The failure of what was tried, with the error as its cause. -/
def Failure.during (tried : String) (e : Error) : Failure := ⟨tried, e.message :: e.causes⟩

def Failure.line (f : Failure) : String := ": ".intercalate (f.message :: f.causes)

/-- A text whose further lines begin with an indent. -/
def hang (indent text : String) : String :=
  ("\n" ++ indent).intercalate ((Text.splitOn '\n' text.toList).map String.ofList)

/-- Right-aligned in five columns. -/
def causeNumber (n : Nat) : String :=
  let digits := toString n
  String.ofList (List.replicate (5 - digits.length) ' ') ++ digits ++ ": "

/-- The causes on lines of their own. They are numbered if there are several. -/
def Failure.report (f : Failure) : String :=
  f.message ++ match f.causes with
    | [] => ""
    | [cause] => "\n\nCaused by:\n    " ++ hang "    " cause
    | causes => "\n\nCaused by:" ++
      String.join (causes.zipIdx.map fun (cause, n) =>
        "\n" ++ causeNumber n ++ hang "       " cause)

namespace Exit

def usage (p : Program) (e : UsageError) : Exit where
  code := 2
  errors := "error: " ++ e.message ++ "\n\nUsage: " ++ p.name ++ " [OPTIONS]\n"

def stopped (p : Program) : Stop → Exit
  | .help => { output := p.helpText }
  | .usage e => usage p e

end Exit

end ShellDocs.CommandLine
