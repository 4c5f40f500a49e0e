import ShellDocs.Text.Split
import ShellDocs.Toml.Text

/-! # TOML numbers

Digits may be grouped by underscores that stand between two digits. Integers have 64 bits.
A float is refused when it is larger than the largest double.
-/

namespace ShellDocs.Toml

/-- The digits of a number without the underscores between them. -/
def digits? (isDigit : Char → Bool) (l : List Char) : Option (List Char) :=
  let groups := Text.splitOn '_' l
  if groups.all (fun g => g ≠ [] ∧ g.all isDigit) then some groups.flatten else none

/-- A decimal number does not begin with a zero, unless it is zero. -/
def decimal? (l : List Char) : Option (List Char) :=
  if l.head? = some '0' ∧ l ≠ ['0'] then none else digits? Char.isDigit l

/-- Whether a number is negative, and the number without its sign. -/
def splitSign : List Char → Bool × List Char
  | '-' :: rest => (true, rest)
  | '+' :: rest => (false, rest)
  | l => (false, l)

/-- An integer as it is written, whatever its size. -/
def writtenInteger? (l : List Char) : Option Int :=
  match l with
  | '0' :: 'x' :: rest => (digits? isHexDigit rest).map fun d => digitsValue 16 d
  | '0' :: 'o' :: rest => (digits? (fun c => '0' ≤ c && c ≤ '7') rest).map fun d => digitsValue 8 d
  | '0' :: 'b' :: rest => (digits? (fun c => c = '0' || c = '1') rest).map fun d => digitsValue 2 d
  | _ =>
    let (negative, rest) := splitSign l
    (decimal? rest).map fun d => if negative then -digitsValue 10 d else digitsValue 10 d

def minInteger : Int := -9223372036854775808

def maxInteger : Int := 9223372036854775807

def integer? (l : List Char) : Option Int :=
  (writtenInteger? l).filter fun i => minInteger ≤ i && i ≤ maxInteger

/-- A decimal fraction: its digits without the point, and the power of ten of the last. -/
structure Decimal where
  digits : List Char
  exponent : Int

/-- Half a step above the largest double. -/
def doubleBound : Nat := Nat.pow 2 1024 - Nat.pow 2 970

/-- Whether rounding a decimal fraction to a double gives infinity. -/
def Decimal.overflows (d : Decimal) : Bool :=
  let digits := d.digits.dropWhile (· = '0')
  let size := digits.length + d.exponent
  let n := digitsValue 10 digits
  if digits = [] ∨ size < 309 then false
  else if 309 < size then true
  else if 0 ≤ d.exponent then doubleBound ≤ n * Nat.pow 10 d.exponent.toNat
  else doubleBound * Nat.pow 10 (-d.exponent).toNat ≤ n

def isExponentMark (c : Char) : Bool := c = 'e' || c = 'E'

def exponent? : List Char → Option Int
  | [] => some 0
  | _ :: l =>
    let (negative, rest) := splitSign l
    (digits? Char.isDigit rest).map fun d =>
      if negative then -digitsValue 10 d else digitsValue 10 d

/-- A decimal fraction without a sign. It has a point or an exponent. -/
def fraction? (l : List Char) : Option Decimal :=
  let mantissa := l.takeWhile (fun c => !isExponentMark c)
  let mark := l.drop mantissa.length
  match Text.splitOn '.' mantissa with
  | [whole] =>
    if mark = [] then none
    else do return ⟨← decimal? whole, ← exponent? mark⟩
  | [whole, part] => do
    let part ← digits? Char.isDigit part
    return ⟨(← decimal? whole) ++ part, (← exponent? mark) - part.length⟩
  | _ => none

def isFloat (l : List Char) : Bool :=
  let (negative, rest) := splitSign l
  rest = "inf".toList || rest = "nan".toList ||
    match fraction? rest with
    | some d => negative || !d.overflows
    | none => false

end ShellDocs.Toml
