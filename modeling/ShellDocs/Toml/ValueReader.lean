import ShellDocs.Toml.DateTime
import ShellDocs.Toml.Number
import ShellDocs.Toml.Table

/-! # Reading TOML values

The first character of a value tells its kind. Arrays and inline tables hold values in
turn, up to a fixed depth.
-/

namespace ShellDocs.Toml

open Reader

/-- How deep arrays and inline tables may stand in one another, and how many keys may stand
between dots. -/
def maxDepth : Nat := 79

def isBareKey (c : Char) : Bool := c.isAlphanum || c = '_' || c = '-'

def readKey : Reader String := do
  if ← accept "\"" then readLineString '"'
  else if ← accept "'" then readLineString '\''
  else
    let name ← takeWhile isBareKey
    guard (name ≠ [])
    return String.ofList name

/-- Keys between dots. Blanks around a key do not count. -/
def readKeys : Nat → Reader KeyPath
  | 0 => failure
  | fuel + 1 => do
    blanks
    let key ← readKey
    blanks
    if ← accept "." then
      let inner ← readKeys fuel
      return ⟨key :: inner.tables, inner.key⟩
    return ⟨[], key⟩

def readKeyPath : Reader KeyPath := readKeys maxDepth

def isPlain (c : Char) : Bool :=
  c.isAlphanum || c = '+' || c = '-' || c = '.' || c = ':' || c = '_'

/-- The value of a word that stands without quotes. -/
def plain? (word : List Char) : Option Value :=
  let written := String.ofList word
  if word = "true".toList then some (.boolean true)
  else if word = "false".toList then some (.boolean false)
  else if isDateTime word then some (.dateTime written)
  else if isFloat word then some (.float written)
  else (integer? word).map .integer

/-- Reads a value without quotes and brackets. Between a date and a time one space may
stand. -/
def readPlain : Reader Value := do
  let word ← takeWhile isPlain
  if isDate word then
    fun l =>
      let next := (l.drop 1).takeWhile isPlain
      if l.head? = some ' ' ∧ isZonedTime next then
        some (.dateTime (String.ofList (word ++ ' ' :: next)), l.drop (next.length + 1))
      else some (.dateTime (String.ofList word), l)
  else fun l => (plain? word).map (·, l)

/-- Reads what follows the opening bracket of an array. -/
def readItems (item : Reader Value) : Nat → Reader (List Value)
  | 0 => failure
  | fuel + 1 => do
    gap
    if ← accept "]" then return []
    let v ← item
    gap
    if ← accept "," then return v :: (← readItems item fuel)
    expect "]"
    return [v]

def readPair (item : Reader Value) : Reader (KeyPath × Value) := do
  let path ← readKeyPath
  expect "="
  blanks
  return (path, ← item)

/-- Reads the pairs of an inline table, up to its closing brace, into a table. -/
def readPairs (item : Reader Value) : Nat → Table → Reader Table
  | 0, _ => failure
  | fuel + 1, t => do
    let (path, v) ← readPair item
    let t ← (t.insert path v : Option Table)
    blanks
    if ← accept "," then readPairs item fuel t
    else
      expect "\x7d"
      return t

/-- Reads what follows the opening brace of an inline table. -/
def readInline (item : Reader Value) : Reader Table := do
  blanks
  if ← accept "\x7d" then return []
  readPairs item (← remaining) []

def readValueWith : Nat → Reader Value
  | 0 => readScalar
  | depth + 1 => do
    if ← accept "[" then return .array (← readItems (readValueWith depth) (← remaining))
    else if ← accept "\x7b" then return .table .inline (← readInline (readValueWith depth))
    else readScalar
where
  readScalar : Reader Value := do
    if ← accept "\"\"\"" then return .string (← readLinesString '"')
    else if ← accept "'''" then return .string (← readLinesString '\'')
    else if ← accept "\"" then return .string (← readLineString '"')
    else if ← accept "'" then return .string (← readLineString '\'')
    else readPlain

def readValue : Reader Value := readValueWith maxDepth

end ShellDocs.Toml
