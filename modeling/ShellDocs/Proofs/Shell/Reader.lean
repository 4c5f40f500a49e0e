import Mathlib.Data.List.Basic

/-! # Commands as a shell reads them

A simple command of the POSIX shell is a list of words, whose pieces may be quoted or may be the
output of another simple command. Blanks are those of the POSIX locale. Back quotes, parameters,
arithmetic, redirections, comments and whatever joins commands are left out: a text with one of them
is not read.
-/

namespace ShellDocs.Shell

/-- The characters that have to be quoted to stand for themselves. -/
def special : List Char :=
  ['|', '&', ';', '<', '>', '(', ')', '$', '`', '\\', '"', '\'', ' ', '\t', '\n']

/-- What a shell reads within words. -/
inductive Piece
  | plain (c : Char)
  | quoted (c : Char)
  /-- What stands between double quotes. -/
  | double (pieces : List Piece)
  /-- The output of the simple command of these words. -/
  | output (words : List (List Piece))

abbrev Word := List Piece

def word (text : String) : Word := text.toList.map .plain

def Piece.plain? : Piece → Option Char
  | .plain c => some c
  | _ => none

def reserved : List String :=
  ["!", "\x7b", "\x7d", "case", "do", "done", "elif", "else", "esac", "fi", "for", "if", "in",
    "then", "until", "while"]

/-- The words begin with the name of a command, and not with a reserved word or with what may be an
assignment. -/
def isSimple : List Word → Bool
  | [] => false
  | name :: _ =>
    let chars := name.map Piece.plain?
    some '=' ∉ chars ∧ ∀ keyword ∈ reserved, chars ≠ keyword.toList.map some

section Steps

/-- What is open: a command with the words read and the word begun, or double quotes. -/
inductive Frame
  | command (words : List Word) (current : Option Word)
  | double (pieces : List Piece)

inductive Mode
  | ready
  | escape
  | dollar
  | single

structure State where
  mode : Mode
  top : Frame
  below : List Frame

def start : State := ⟨.ready, .command [] none, []⟩

def Frame.add (p : Piece) : Frame → Frame
  | .command words current => .command words (some (current.getD [] ++ [p]))
  | .double pieces => .double (pieces ++ [p])

namespace State

variable (s : State) (p : Piece)

def add : State := { s with mode := .ready, top := s.top.add p }

def push (f : Frame) : State := ⟨.ready, f, s.top :: s.below⟩

/-- Closes the innermost frame, which was read as `p`. -/
def pop : Option State :=
  match s.below with
  | [] => none
  | f :: below => some ⟨.ready, f.add p, below⟩

def readInCommand (words : List Word) (current : Option Word) (c : Char) : Option State :=
  if c = ' ' ∨ c = '\t' then some { s with top := .command (words ++ current.toList) none }
  else if c = '"' then some (s.push (.double []))
  else if c = '\'' then
    some { s with mode := .single, top := .command words (some (current.getD [])) }
  else if c = '\\' then some { s with mode := .escape }
  else if c = '$' then some { s with mode := .dollar }
  else if c = ')' ∧ isSimple (words ++ current.toList) then
    s.pop (.output (words ++ current.toList))
  else if c ∈ special ∨ current.isNone ∧ (c = '#' ∨ c = '~') then none
  else some (s.add (.plain c))

def readInDouble (pieces : List Piece) (c : Char) : Option State :=
  if c = '"' then s.pop (.double pieces)
  else if c = '\\' then some { s with mode := .escape }
  else if c = '$' then some { s with mode := .dollar }
  else if c = '`' then none
  else some (s.add (.quoted c))

/-- A newline after a backslash is no part of the command. Between double quotes there are
characters that a backslash does not escape. -/
def readEscaped (c : Char) : State :=
  if c = '\n' then { s with mode := .ready }
  else match s.top with
    | .command _ _ => s.add (.quoted c)
    | .double _ =>
      if c ∈ ['$', '`', '"', '\\'] then s.add (.quoted c)
      else (s.add (.quoted '\\')).add (.quoted c)

def step (c : Char) : Option State :=
  match s.mode with
  | .ready =>
    match s.top with
    | .command words current => s.readInCommand words current c
    | .double pieces => s.readInDouble pieces c
  | .escape => some (s.readEscaped c)
  | .dollar => if c = '(' then some (s.push (.command [] none)) else none
  | .single =>
    if c = '\'' then some { s with mode := .ready }
    else some { s.add (.quoted c) with mode := .single }

end State

def read? (text : String) : Option (List Word) :=
  match text.toList.foldlM State.step start with
  | some ⟨.ready, .command words current, []⟩ =>
    if isSimple (words ++ current.toList) then some (words ++ current.toList) else none
  | _ => none

example : (read? "curl -o 'a b' c\\ d").map List.length = some 4 := by decide

example : (read? "curl a; rm b").isNone = true := by decide

end Steps

section Unquoted

/-! What stands for itself without quotes is not special. -/

variable {c : Char} {p : Piece} {f : Frame} {s s' : State} {words : List Word}
  {current : Option Word} {pieces : List Piece} {text : String}

inductive Piece.Valid : Piece → Prop
  | plain {c : Char} (h : c ∉ special) : Valid (.plain c)
  | quoted {c : Char} : Valid (.quoted c)
  | double {pieces : List Piece} (h : ∀ p ∈ pieces, p.Valid) : Valid (.double pieces)
  | output {words : List Word} (h : ∀ w ∈ words, ∀ p ∈ w, p.Valid) : Valid (.output words)

def Word.Valid (w : Word) : Prop := ∀ p ∈ w, p.Valid

theorem valid_word_iff : Word.Valid (word text) ↔ ∀ c ∈ text.toList, c ∉ special := by
  simp only [Word.Valid, word, List.forall_mem_map]
  refine forall₂_congr fun c _ => ⟨?_, .plain⟩
  rintro ⟨h⟩
  exact h

theorem Word.Valid.concat {w : Word} (hw : Word.Valid w) (hp : p.Valid) : Word.Valid (w ++ [p]) :=
  List.forall_mem_append.mpr ⟨hw, List.forall_mem_singleton.mpr hp⟩

def Frame.Valid : Frame → Prop
  | .command words current => ∀ w ∈ words ++ current.toList, Word.Valid w
  | .double pieces => Word.Valid pieces

theorem Frame.Valid.begin (h : (Frame.command words current).Valid) :
    (Frame.command words (some (current.getD []))).Valid := by
  cases current with
  | none =>
    have hnil : Word.Valid [] := fun _ hp => nomatch hp
    exact List.forall_mem_append.mpr ⟨(List.forall_mem_append.mp h).1,
      List.forall_mem_singleton.mpr hnil⟩
  | some w => exact h

theorem Frame.Valid.add (hf : f.Valid) (hp : p.Valid) : (f.add p).Valid := by
  cases f with
  | command words current =>
    have hwords := List.forall_mem_append.mp hf.begin
    have hcurrent := List.forall_mem_singleton.mp hwords.2
    exact List.forall_mem_append.mpr ⟨hwords.1, List.forall_mem_singleton.mpr (hcurrent.concat hp)⟩
  | double pieces => exact Word.Valid.concat hf hp

structure State.Valid (s : State) : Prop where
  top : s.top.Valid
  below : ∀ f ∈ s.below, f.Valid

namespace State.Valid

theorem add (hs : s.Valid) (hp : p.Valid) : (s.add p).Valid := ⟨hs.top.add hp, hs.below⟩

theorem push (hs : s.Valid) (hf : f.Valid) : (s.push f).Valid :=
  ⟨hf, List.forall_mem_cons.mpr ⟨hs.top, hs.below⟩⟩

theorem pop (hs : s.Valid) (hp : p.Valid) (h : s.pop p = some s') : s'.Valid := by
  obtain ⟨mode, top, below⟩ := s
  cases below with
  | nil => cases h
  | cons f below =>
    cases h
    have hbelow := List.forall_mem_cons.mp hs.below
    exact ⟨hbelow.1.add hp, hbelow.2⟩

theorem readInCommand (hs : s.Valid) (hf : (Frame.command words current).Valid)
    (h : s.readInCommand words current c = some s') : s'.Valid := by
  unfold State.readInCommand at h
  split_ifs at h with _ _ _ _ _ _ hstop
  · cases h
    exact ⟨by simpa [Frame.Valid] using hf, hs.below⟩
  · cases h
    exact hs.push fun _ hp => nomatch hp
  · cases h
    exact ⟨hf.begin, hs.below⟩
  · cases h
    exact ⟨hs.top, hs.below⟩
  · cases h
    exact ⟨hs.top, hs.below⟩
  · exact hs.pop (.output hf) h
  · cases h
    exact hs.add (.plain (not_or.mp hstop).1)

theorem readInDouble (hs : s.Valid) (hf : (Frame.double pieces).Valid)
    (h : s.readInDouble pieces c = some s') : s'.Valid := by
  unfold State.readInDouble at h
  split_ifs at h
  · exact hs.pop (.double hf) h
  · cases h
    exact ⟨hs.top, hs.below⟩
  · cases h
    exact ⟨hs.top, hs.below⟩
  · cases h
    exact hs.add .quoted

theorem readEscaped (hs : s.Valid) : (s.readEscaped c).Valid := by
  unfold State.readEscaped
  split
  · exact ⟨hs.top, hs.below⟩
  · split
    · exact hs.add .quoted
    · split
      · exact hs.add .quoted
      · exact (hs.add .quoted).add .quoted

theorem step (hs : s.Valid) (h : s.step c = some s') : s'.Valid := by
  obtain ⟨mode, top, below⟩ := s
  cases mode with
  | ready =>
    cases top with
    | command words current => exact hs.readInCommand hs.top h
    | double pieces => exact hs.readInDouble hs.top h
  | escape =>
    cases h
    exact hs.readEscaped
  | dollar =>
    simp only [State.step] at h
    split at h
    · cases h
      exact hs.push fun _ hw => nomatch hw
    · cases h
  | single =>
    simp only [State.step] at h
    split at h
    · cases h
      exact ⟨hs.top, hs.below⟩
    · cases h
      exact ⟨hs.top.add .quoted, hs.below⟩

theorem run {l : List Char} (hs : s.Valid) (h : l.foldlM State.step s = some s') : s'.Valid := by
  induction l generalizing s with
  | nil =>
    cases h
    exact hs
  | cons c l ih =>
    rw [List.foldlM_cons, Option.bind_eq_bind, Option.bind_eq_some_iff] at h
    obtain ⟨next, hnext, hrest⟩ := h
    exact ih (hs.step hnext) hrest

end State.Valid

theorem valid_of_read?_eq_some (h : read? text = some words) : ∀ w ∈ words, Word.Valid w := by
  unfold read? at h
  split at h
  case h_1 words' current hrun =>
    have hstart : start.Valid := ⟨fun _ hw => (nomatch hw), fun _ hf => (nomatch hf)⟩
    split at h
    · cases h
      exact (hstart.run hrun).top
    · cases h
  case h_2 => cases h

end Unquoted

section Runs

variable {c : Char} {words : List Word} {current : Option Word} {w : Word} {below : List Frame}

theorem step_of_not_mem_special (hc : c ∉ special)
    (hstart : current.isNone → c ≠ '#' ∧ c ≠ '~') :
    State.step ⟨.ready, .command words current, below⟩ c =
      some ⟨.ready, .command words (some (current.getD [] ++ [.plain c])), below⟩ := by
  have hne : ∀ d ∈ special, c ≠ d := by
    rintro d hd rfl
    exact hc hd
  simp only [special, List.forall_mem_cons] at hne
  simpa [State.step, State.readInCommand, State.add, Frame.add, hc, hne] using hstart

theorem run_of_forall_not_mem_special {l : List Char} (hl : ∀ c ∈ l, c ∉ special) :
    l.foldlM State.step ⟨.ready, .command words (some w), below⟩ =
      some ⟨.ready, .command words (some (w ++ l.map .plain)), below⟩ := by
  induction l generalizing w with
  | nil => simp
  | cons c l ih =>
    have hl := List.forall_mem_cons.mp hl
    rw [List.foldlM_cons, step_of_not_mem_special hl.1 (by simp), Option.bind_eq_bind,
      Option.bind_some, ih hl.2]
    simp

/-- A word is begun where it is neither a comment nor the name of a directory of a user. -/
theorem run_word {text : String} (hl : ∀ c ∈ text.toList, c ∉ special) (hne : text.toList ≠ [])
    (hhead : ∀ c ∈ text.toList.head?, c ≠ '#' ∧ c ≠ '~') :
    text.toList.foldlM State.step ⟨.ready, .command words none, below⟩ =
      some ⟨.ready, .command words (some (word text)), below⟩ := by
  obtain ⟨c, l, htext⟩ := List.exists_cons_of_ne_nil hne
  rw [htext] at hl hhead
  have hl := List.forall_mem_cons.mp hl
  rw [word, htext, List.foldlM_cons, step_of_not_mem_special hl.1 fun _ => hhead c rfl,
    Option.bind_eq_bind, Option.bind_some, run_of_forall_not_mem_special hl.2]
  rfl

end Runs

section Patterns

/-! A word may stand for the names of files, and does not if it is no pattern. -/

def closesBracket : List Char → Bool
  | [] => false
  | c :: rest => c = ']' || c ≠ '/' && closesBracket rest

/-- The text after a bracket goes on as a bracket expression. The first character of the expression,
or the first after the sign of the complement, does not close it. -/
def isBracket : List Char → Bool
  | '!' :: c :: rest => c ≠ '/' && closesBracket rest
  | c :: rest => c ≠ '/' && closesBracket rest
  | [] => false

def isPattern : List Char → Bool
  | [] => false
  | c :: rest => c = '*' || c = '?' || c = '[' && isBracket rest || isPattern rest

example : isPattern "[!a-c]".toList = true ∧ isPattern "a[/]b".toList = false := by decide

theorem isPattern_append_of_forall_not_mem {l rest : List Char}
    (hl : ∀ c ∈ l, c ∉ ['*', '?', '[']) : isPattern (l ++ rest) = isPattern rest := by
  induction l with
  | nil => rfl
  | cons c l ih =>
    have hl := List.forall_mem_cons.mp hl
    have hne : c ≠ '*' ∧ c ≠ '?' ∧ c ≠ '[' := by simpa using hl.1
    simp [isPattern, hne, ih hl.2]

end Patterns

end ShellDocs.Shell
