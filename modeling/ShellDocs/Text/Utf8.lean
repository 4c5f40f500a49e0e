/-! # Reading bytes as UTF-8

Bytes that are no text are read with losses: a replacement character stands for each longest
run that could have begun a character.
-/

namespace ShellDocs.Text

def replacement : Char := '\uFFFD'

/-- How many bytes follow a first byte, and the range of the one right after it. -/
def leadByte? (b : UInt8) : Option (Nat × UInt8 × UInt8) :=
  if 0xC2 ≤ b && b ≤ 0xDF then some (1, 0x80, 0xBF)
  else if b = 0xE0 then some (2, 0xA0, 0xBF)
  else if b = 0xED then some (2, 0x80, 0x9F)
  else if 0xE1 ≤ b && b ≤ 0xEF then some (2, 0x80, 0xBF)
  else if b = 0xF0 then some (3, 0x90, 0xBF)
  else if b = 0xF4 then some (3, 0x80, 0x8F)
  else if 0xF1 ≤ b && b ≤ 0xF3 then some (3, 0x80, 0xBF)
  else none

/-- A character of which some bytes have been read: its bits so far, the bytes still owed,
and the range of the next one. -/
structure OpenChar where
  bits : Nat
  owed : Nat
  low : UInt8
  high : UInt8

def OpenChar.push (o : OpenChar) (b : UInt8) : OpenChar where
  bits := o.bits * 64 + b.toNat % 64
  owed := o.owed - 1
  low := 0x80
  high := 0xBF

/-- Starts a character at `b`, or gives the one that `b` makes alone. -/
def startChar (b : UInt8) : List Char × Option OpenChar :=
  if b < 0x80 then ([Char.ofNat b.toNat], none)
  else match leadByte? b with
    | none => ([replacement], none)
    | some (n, low, high) =>
      ([], some ⟨b.toNat % (64 >>> n), n, low, high⟩)

def decodeLossyFrom : Option OpenChar → List UInt8 → List Char
  | none, [] => []
  | some _, [] => [replacement]
  | none, b :: rest =>
    let (out, next) := startChar b
    out ++ decodeLossyFrom next rest
  | some o, b :: rest =>
    if o.low ≤ b && b ≤ o.high then
      if o.owed = 1 then Char.ofNat (o.push b).bits :: decodeLossyFrom none rest
      else decodeLossyFrom (some (o.push b)) rest
    else
      let (out, next) := startChar b
      replacement :: out ++ decodeLossyFrom next rest

/-- Bytes that are a text stand for it. -/
def decodeLossy (bytes : ByteArray) : String :=
  (String.fromUTF8? bytes).getD (String.ofList (decodeLossyFrom none bytes.toList))

end ShellDocs.Text
