import ShellDocs.CommandLine.Program

/-! # Reading arguments

Arguments are read one by one up to the first error or request for help. A value stands in
the same argument as its flag or in the next one.
-/

namespace ShellDocs.CommandLine

inductive UsageError where
  | unknownFlag (name : String)
  | unexpectedArgument (arg : String)
  | unexpectedValue (flag : String)
  | missingValue (flag : String)
  | invalidValue (flag value : String)
  | repeated (flag : String)
deriving DecidableEq

def UsageError.message : UsageError → String
  | unknownFlag name => "unknown option " ++ name
  | unexpectedArgument arg => "unexpected argument " ++ arg
  | unexpectedValue flag => "--" ++ flag ++ " takes no value"
  | missingValue flag => "--" ++ flag ++ " needs a value"
  | invalidValue flag value => "invalid value for --" ++ flag ++ ": " ++ value
  | repeated flag => "--" ++ flag ++ " is given more than once"

/-- Why the arguments are not read to their end. -/
inductive Stop where
  | help
  | usage (e : UsageError)
deriving DecidableEq

/-- Flags by their long names, with their values. A switch has the empty value. -/
abbrev Given := List (String × String)

def Given.value? (g : Given) (flag : String) : Option String := g.lookup flag

def Given.has (g : Given) (flag : String) : Bool := (g.value? flag).isSome

/-- A port in decimal digits. A sign may stand before them. -/
def port? (s : String) : Option UInt16 :=
  let (negative, digits) := match s.toList with
    | '-' :: rest => (true, rest)
    | '+' :: rest => (false, rest)
    | l => (false, l)
  let n := digits.foldl (fun n c => 10 * n + (c.toNat - '0'.toNat)) 0
  if digits ≠ [] ∧ digits.all Char.isDigit ∧ n < 65536 ∧ (negative → n = 0) then
    some (UInt16.ofNat n)
  else none

def ValueKind.allows : ValueKind → String → Bool
  | .path, s => s ≠ ""
  | .port, s => (port? s).isSome

/-- What has been read so far, and the flag that waits for its value. After two hyphens
alone no flags are read. -/
structure Progress where
  given : Given := []
  waiting : Option Flag := none
  ended : Bool := false

namespace Progress

def give (s : Progress) (f : Flag) (value : String) : Except Stop Progress :=
  if s.given.has f.long then .error (.usage (.repeated f.long))
  else if f.value.any (fun kind => !kind.allows value) then
    .error (.usage (.invalidValue f.long value))
  else .ok { s with given := s.given ++ [(f.long, value)], waiting := none }

/-- Takes a switch. -/
def turnOn (s : Progress) (f : Flag) : Except Stop Progress :=
  if f = .help then .error .help else s.give f ""

/-- Takes a long name and the value that stands with it. -/
def long (p : Program) (s : Progress) (name : String) (value : Option String) :
    Except Stop Progress :=
  match p.allFlags.find? (fun f => f.long = name), value with
  | none, _ => .error (.usage (.unknownFlag ("--" ++ name)))
  | some f, none =>
    if f.value.isSome then .ok { s with waiting := some f } else s.turnOn f
  | some f, some v =>
    if f.value.isSome then s.give f v else .error (.usage (.unexpectedValue f.long))

/-- The value that follows a short name. An equals sign before it does not count. -/
def attached : List Char → String
  | '=' :: rest => String.ofList rest
  | l => String.ofList l

/-- Takes short names that stand together. What follows a flag with a value is its
value. -/
def short (p : Program) (s : Progress) : List Char → Except Stop Progress
  | [] => .ok s
  | c :: rest =>
    match p.allFlags.find? (fun f => f.short = c) with
    | none => .error (.usage (.unknownFlag ("-" ++ c.toString)))
    | some f =>
      if f.value.isNone then do short p (← s.turnOn f) rest
      else if rest = [] then .ok { s with waiting := some f }
      else s.give f (attached rest)

def argument (p : Program) (s : Progress) (arg : String) : Except Stop Progress :=
  if s.ended then .error (.usage (.unexpectedArgument arg))
  else match s.waiting, arg.toList with
    | some f, '-' :: _ :: _ => .error (.usage (.missingValue f.long))
    | some f, _ => s.give f arg
    | none, ['-', '-'] => .ok { s with ended := true }
    | none, '-' :: '-' :: name =>
      match name.dropWhile (· ≠ '=') with
      | _ :: value =>
        s.long p (String.ofList (name.takeWhile (· ≠ '='))) (some (String.ofList value))
      | [] => s.long p (String.ofList name) none
    | none, '-' :: c :: names => s.short p (c :: names)
    | none, _ => .error (.usage (.unexpectedArgument arg))

def finish (s : Progress) : Except Stop Given :=
  match s.waiting with
  | some f => .error (.usage (.missingValue f.long))
  | none => .ok s.given

end Progress

def Program.read (p : Program) (args : List String) : Except Stop Given := do
  (← args.foldlM (Progress.argument p) {}).finish

end ShellDocs.CommandLine
