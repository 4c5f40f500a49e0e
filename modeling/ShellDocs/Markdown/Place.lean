/-! # Places in a text

A place keeps what stands before it, the nearest character first, and what stands after it.
-/

namespace ShellDocs.Markdown

structure Place where
  pos : Nat
  before : List Char
  rest : List Char

namespace Place

def ofText (l : List Char) : Place := ⟨0, [], l⟩

def next (p : Place) : Place :=
  match p.rest with
  | [] => p
  | c :: rest => ⟨p.pos + 1, c :: p.before, rest⟩

def previous (p : Place) : Place :=
  match p.before with
  | [] => p
  | c :: before => ⟨p.pos - 1, before, c :: p.rest⟩

def advance : Nat → Place → Place
  | 0, p => p
  | n + 1, p => advance n p.next

def back : Nat → Place → Place
  | 0, p => p
  | n + 1, p => back n p.previous

/-- The place at a position that does not come before this one. -/
def atPos (p : Place) (pos : Nat) : Place := p.advance (pos - p.pos)

/-- The text up to a position. -/
def textTo (p : Place) (stop : Nat) : List Char := p.rest.take (stop - p.pos)

/-- A place in the text that ends at a position. -/
def upTo (p : Place) (stop : Nat) : Place := { p with rest := p.textTo stop }

def skipWhile (p : Place) (f : Char → Bool) : Place := p.advance (p.rest.takeWhile f).length

end Place

/-- A character and its position. -/
structure Letter where
  pos : Nat
  char : Char

def chars (l : List Letter) : List Char := l.map (·.char)

def lettersFrom (pos : Nat) : List Char → List Letter
  | [] => []
  | c :: rest => ⟨pos, c⟩ :: lettersFrom (pos + 1) rest

/-- The letters up to a position. -/
def Place.lettersTo (p : Place) (stop : Nat) : List Letter := lettersFrom p.pos (p.textTo stop)

/-- Letters are split where `rest`, an end of their characters, begins. -/
def splitBefore (l : List Letter) (rest : List Char) : List Letter × List Letter :=
  l.splitAt (l.length - rest.length)

/-- The position after the last letter, `pos` if there is none. -/
def endPos (pos : Nat) (l : List Letter) : Nat :=
  match l.getLast? with
  | some l => l.pos + 1
  | none => pos

end ShellDocs.Markdown
