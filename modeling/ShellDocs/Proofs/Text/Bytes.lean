import Mathlib.Algebra.Ring.Nat

/-! # The order of texts and of their bytes

Texts are ordered character by character. The bytes of a character are its digits to the base 64
with marks on them, so the bytes of texts have the same order.
-/

namespace ShellDocs.Text

def bytes (text : String) : List UInt8 := text.toUTF8.data.toList

section Digits

/-- The last digits of a number to the base 64, as bytes that follow the first. -/
def trailing : Nat → Nat → List UInt8
  | 0, _ => []
  | count + 1, n => trailing count (n / 64) ++ [UInt8.ofNat (n % 64 + 128)]

/-- A number in bytes, with a mark in the first of them and `count` more. -/
def marked (mark count n : Nat) : List UInt8 :=
  UInt8.ofNat (n / 64 ^ count + mark) :: trailing count n

variable {m n mark count : Nat}

theorem ofNat_lt_ofNat (h : m < n) (hn : n < 256) : UInt8.ofNat m < UInt8.ofNat n := by
  rw [UInt8.lt_iff_toNat_lt, UInt8.toNat_ofNat', UInt8.toNat_ofNat', Nat.mod_eq_of_lt (by omega),
    Nat.mod_eq_of_lt hn]
  exact h

theorem append_lt_append (front : List UInt8) {l l' : List UInt8} (h : l < l') :
    front ++ l < front ++ l' := by
  induction front with
  | nil => exact h
  | cons b front ih => exact List.cons_lt_cons_iff.mpr (.inr ⟨rfl, ih⟩)

theorem marked_succ (mark count n : Nat) :
    marked mark (count + 1) n = marked mark count (n / 64) ++ [UInt8.ofNat (n % 64 + 128)] := by
  rw [marked, marked, trailing, Nat.div_div_eq_div_mul, Nat.pow_succ', List.cons_append]

theorem marked_lt_marked (h : m < n) (hn : n / 64 ^ count + mark < 256) (l l' : List UInt8) :
    marked mark count m ++ l < marked mark count n ++ l' := by
  induction count generalizing m n l l' with
  | zero =>
    have hlt : m / 64 ^ 0 + mark < n / 64 ^ 0 + mark := by simpa using h
    exact List.cons_lt_cons_iff.mpr (.inl (ofNat_lt_ofNat hlt hn))
  | succ count ih =>
    rw [Nat.pow_succ', ← Nat.div_div_eq_div_mul] at hn
    rw [marked_succ, marked_succ, List.append_assoc, List.append_assoc]
    rcases Nat.lt_or_ge (m / 64) (n / 64) with hlt | hge
    · exact ih hlt hn _ _
    · have he : m / 64 = n / 64 := Nat.le_antisymm (Nat.div_le_div_right (Nat.le_of_lt h)) hge
      rw [he]
      exact append_lt_append _ (List.cons_lt_cons_iff.mpr
        (.inl (ofNat_lt_ofNat (by omega) (by omega))))

end Digits

section Characters

/-- How many bytes follow the first for a code point, and the mark of the first. -/
inductive Width (n : Nat) : (mark count : Nat) → Prop where
  | one : n < 128 → Width n 0 0
  | two : 128 ≤ n → n < 2048 → Width n 192 1
  | three : 2048 ≤ n → n < 65536 → Width n 224 2
  | four : 65536 ≤ n → n < 1114112 → Width n 240 3

theorem Width.first_lt {n mark count : Nat} (h : Width n mark count) :
    n / 64 ^ count + mark < 256 := by
  cases h <;> omega

theorem Width.first_lt_first {m n mark count mark' count' : Nat} (h : Width m mark count)
    (h' : Width n mark' count') (hlt : m < n) :
    (mark = mark' ∧ count = count') ∨ m / 64 ^ count + mark < n / 64 ^ count' + mark' := by
  cases h <;> cases h' <;> omega

theorem toNat_lt (c : Char) : c.val.toNat < 1114112 := by
  rcases c.valid with h | h
  · exact Nat.lt_trans h (by decide)
  · exact h.2

theorem exists_width (c : Char) : ∃ mark count, Width c.val.toNat mark count ∧
    String.utf8EncodeChar c = marked mark count c.val.toNat := by
  have hlt := toNat_lt c
  unfold String.utf8EncodeChar
  generalize c.val.toNat = n at hlt
  dsimp only
  split
  · exact ⟨0, 0, .one (by omega), by simp [marked, trailing]⟩
  split
  · refine ⟨192, 1, .two (by omega) (by omega), ?_⟩
    have hfirst : n / 64 % 32 = n / 64 := by omega
    simp [marked, trailing, hfirst]
  split
  · refine ⟨224, 2, .three (by omega) (by omega), ?_⟩
    have hfirst : n / 4096 % 16 = n / 4096 := by omega
    simp [marked, trailing, hfirst]
  · refine ⟨240, 3, .four (by omega) hlt, ?_⟩
    have hfirst : n / 262144 % 8 = n / 262144 := by omega
    simp [marked, trailing, hfirst, Nat.div_div_eq_div_mul]

theorem utf8EncodeChar_lt {c d : Char} (h : c < d) (l l' : List UInt8) :
    String.utf8EncodeChar c ++ l < String.utf8EncodeChar d ++ l' := by
  obtain ⟨mark, count, hc, hce⟩ := exists_width c
  obtain ⟨mark', count', hd, hde⟩ := exists_width d
  have hlt : c.val.toNat < d.val.toNat := h
  rw [hce, hde]
  generalize c.val.toNat = m at hc hlt
  generalize d.val.toNat = n at hd hlt
  rcases hc.first_lt_first hd hlt with ⟨rfl, rfl⟩ | hfirst
  · exact marked_lt_marked hlt hd.first_lt l l'
  · exact List.cons_lt_cons_iff.mpr (.inl (ofNat_lt_ofNat hfirst hd.first_lt))

end Characters

theorem bytes_eq (text : String) : bytes text = text.toList.flatMap String.utf8EncodeChar := by
  rw [bytes, String.toUTF8_eq_toByteArray, ← String.utf8Encode_toList, List.utf8Encode,
    List.data_toByteArray]

theorem flatMap_utf8EncodeChar_lt {l l' : List Char} (h : l < l') :
    l.flatMap String.utf8EncodeChar < l'.flatMap String.utf8EncodeChar := by
  induction l generalizing l' with
  | nil =>
    cases l' with
    | nil => cases h
    | cons d l' =>
      obtain ⟨mark, count, -, hd⟩ := exists_width d
      rw [List.flatMap_cons, hd]
      exact List.nil_lt_cons _ _
  | cons c l ih =>
    cases l' with
    | nil => cases h
    | cons d l' =>
      rw [List.flatMap_cons, List.flatMap_cons]
      rcases List.cons_lt_cons_iff.mp h with hlt | ⟨rfl, hlt⟩
      · exact utf8EncodeChar_lt hlt _ _
      · exact append_lt_append _ (ih hlt)

/-- Texts in ascending order have their bytes in ascending order. -/
theorem bytes_lt_bytes {text text' : String} (h : text < text') : bytes text < bytes text' := by
  rw [bytes_eq, bytes_eq]
  exact flatMap_utf8EncodeChar_lt h

theorem bytes_lt_bytes_iff {text text' : String} : bytes text < bytes text' ↔ text < text' := by
  refine ⟨fun h => ?_, bytes_lt_bytes⟩
  rcases Std.lt_trichotomy text text' with hlt | rfl | hgt
  · exact hlt
  · exact absurd h Std.lt_irrefl
  · exact absurd (bytes_lt_bytes hgt) (Std.not_lt.mpr (Std.le_of_lt h))

end ShellDocs.Text
