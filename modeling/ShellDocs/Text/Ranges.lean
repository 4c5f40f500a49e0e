/-! # Ranges of code points

A class of characters given by a list of inclusive ranges.
-/

namespace ShellDocs.Text

def inRanges (ranges : List (Nat × Nat)) (c : Char) : Bool :=
  ranges.any (fun r => r.1 ≤ c.toNat && c.toNat ≤ r.2)

end ShellDocs.Text
