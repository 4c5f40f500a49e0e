import ShellDocs.Toml.Text

/-! # TOML dates and times

A date, a time, or both, in which case an offset from UTC may follow.
-/

namespace ShellDocs.Toml

open Reader

/-- A number of exactly `width` digits within bounds. -/
def field (width least most : Nat) : Reader Nat := fun l =>
  let digits := l.take width
  let n := digitsValue 10 digits
  if digits.length = width ∧ digits.all Char.isDigit ∧ least ≤ n ∧ n ≤ most then
    some (n, l.drop width)
  else none

def isLeapYear (year : Nat) : Bool :=
  year % 4 = 0 && (year % 100 ≠ 0 || year % 400 = 0)

def daysIn (year month : Nat) : Nat :=
  if month = 2 then if isLeapYear year then 29 else 28
  else if month ∈ [4, 6, 9, 11] then 30 else 31

def date : Reader Unit := do
  let year ← field 4 0 9999
  expect "-"
  let month ← field 2 1 12
  expect "-"
  let _ ← field 2 1 (daysIn year month)

/-- A minute may end with a leap second. -/
def time : Reader Unit := do
  let _ ← field 2 0 23
  expect ":"
  let _ ← field 2 0 59
  expect ":"
  let _ ← field 2 0 60
  if ← accept "." then
    guard ((← takeWhile Char.isDigit) ≠ [])

def offset : Reader Unit := do
  if (← accept "Z") || (← accept "z") then return
  if !(← accept "+") then expect "-"
  let _ ← field 2 0 23
  expect ":"
  let _ ← field 2 0 59

def zonedTime : Reader Unit := do
  time
  if (← peek).isSome then offset

def isDate (l : List Char) : Bool := takesAll date l

def isZonedTime (l : List Char) : Bool := takesAll zonedTime l

/-- A date alone, a time alone, or both with a letter between them. -/
def isDateTime (l : List Char) : Bool :=
  isDate l || takesAll time l || takesAll (do
    date
    if !(← accept "t") then expect "T"
    zonedTime) l

end ShellDocs.Toml
