import ShellDocs.Text.Split

/-! # Request targets

The target of an HTTP request is a path with an optional query, an absolute address, an
authority alone, or an asterisk. Only its path counts here.
-/

namespace ShellDocs.Preview

def maxTarget : Nat := 65534

def isSchemeChar (c : Char) : Bool := c.isAlphanum || "+-.~".contains c

def isAuthorityChar (c : Char) : Bool :=
  c.isAlphanum || "!$&'()*+,-.:;=@[]_~%".contains c

def isControl (c : Char) : Bool := c.toNat ≤ 0x20 || c.toNat = 0x7f

def isPathChar (c : Char) : Bool := !isControl c && !"#<>?`".contains c

def isQueryChar (c : Char) : Bool := !isControl c && !"\"#<>".contains c

/-- An authority while it is checked: the colons that may begin a port, the brackets around
an address, whether a percent sign stands outside the user's part, and the last character. -/
structure Authority where
  colons : Nat := 0
  opened : Bool := false
  closed : Bool := false
  percent : Bool := false
  last : Option Char := none

def Authority.push? (a : Authority) (c : Char) : Option Authority :=
  let next := { a with last := some c }
  if !isAuthorityChar c then none
  else if c = ':' then if 8 ≤ a.colons then none else some { next with colons := a.colons + 1 }
  else if c = '[' then if a.percent || a.opened then none else some { next with opened := true }
  else if c = ']' then
    if !a.opened || a.closed then none
    else some { next with closed := true, colons := 0, percent := false }
  else if c = '@' then some { next with colons := 0, percent := false }
  else if c = '%' then some { next with percent := true }
  else some next

def isAuthority (l : List Char) : Bool :=
  match l.foldlM Authority.push? {} with
  | some a => a.opened = a.closed && a.colons ≤ 1 && a.last ≠ some '@' && !a.percent
  | none => false

def endsAuthority (c : Char) : Bool := c = '/' || c = '?' || c = '#'

/-- The path of a text that begins with a path. A query and a fragment may follow. -/
def pathOf? (l : List Char) : Option (List Char) :=
  let path := l.takeWhile (fun c => c ≠ '?' && c ≠ '#')
  let query := match l.drop path.length with
    | '?' :: rest => rest.takeWhile (· ≠ '#')
    | _ => []
  if path.all isPathChar && query.all isQueryChar then some path else none

def lowerAscii (l : List Char) : List Char := l.map Char.toLower

/-- What stands before the two slashes of an absolute address, and what follows them. -/
def scheme? (l : List Char) : Option (List Char × List Char) :=
  match l.dropWhile isSchemeChar with
  | ':' :: '/' :: '/' :: rest => some (l.takeWhile isSchemeChar, rest)
  | _ => none

/-- The path of a request target. An absolute address without a path has the path `/`, an
authority alone has none. -/
def targetPath? (target : String) : Option String :=
  let l := target.toList
  if maxTarget < target.utf8ByteSize then none
  else match l with
    | [] => none
    | ['*'] => some "*"
    | '/' :: _ => (pathOf? l).map String.ofList
    | _ =>
      match scheme? l with
      | some (scheme, rest) =>
        let authority := rest.takeWhile (fun c => !endsAuthority c)
        if 64 < scheme.length ∨ authority = [] ∨ !isAuthority authority then none
        else (pathOf? (rest.drop authority.length)).map fun path =>
          if path = [] then "/" else String.ofList path
      | none => if isAuthority l then some "" else none

end ShellDocs.Preview
