import Mathlib.Data.Bool.AllAny
import Mathlib.Data.List.TakeWhile
import ShellDocs.Preview.Target

/-! # Paths of requests

The path of a request stands in its target as it is. So it holds no character that may not stand in
a target, and none that ends the path there. A path of other characters that begins with a slash is
its own target.
-/

namespace ShellDocs.Preview

/-- Neither a space nor a control character nor a mark that ends a path or must not stand in it. -/
def IsPlain (c : Char) : Prop :=
  0x20 < c.toNat ∧ c.toNat ≠ 0x7F ∧ c ∉ ['#', '<', '>', '?', '`']

instance (c : Char) : Decidable (IsPlain c) := by unfold IsPlain; infer_instance

variable {target path name : String} {l p : List Char} {c : Char}

theorem isPathChar_iff : isPathChar c = true ↔ IsPlain c := by
  have hl : "#<>?`".toList = ['#', '<', '>', '?', '`'] := by decide
  simp [isPathChar, isControl, IsPlain, String.contains_char_eq, hl, and_assoc]

theorem isPlain_of_pathOf? (h : pathOf? l = some p) : ∀ c ∈ p, IsPlain c := by
  simp only [pathOf?, Option.ite_none_right_eq_some, Option.some.injEq] at h
  obtain ⟨hok, rfl⟩ := h
  intro c hc
  exact isPathChar_iff.mp (List.all_eq_true.mp (Bool.and_eq_true_iff.mp hok).1 c hc)

theorem pathOf?_of_isPlain (h : ∀ c ∈ l, IsPlain c) : pathOf? l = some l := by
  have hcut : l.takeWhile (fun c => c ≠ '?' && c ≠ '#') = l := by
    refine List.takeWhile_eq_self_iff.mpr fun c hc => ?_
    obtain ⟨-, -, hne⟩ := h c hc
    simp only [List.mem_cons, not_or] at hne
    simp [hne]
  have hall : l.all isPathChar = true :=
    List.all_eq_true.mpr fun c hc => isPathChar_iff.mpr (h c hc)
  have hquery : [].all isQueryChar = true := rfl
  simp only [pathOf?, hcut, hall, List.drop_length, hquery, Bool.and_self, if_true]

theorem isPlain_of_targetPath? (h : targetPath? target = some path) :
    ∀ c ∈ path.toList, IsPlain c := by
  have hfixed : ∀ path ∈ ["*", "/", ""], path.toList.all (IsPlain ·) := by decide
  have hpath : ∀ {l}, (pathOf? l).map String.ofList = some path →
      ∀ c ∈ path.toList, IsPlain c := by
    intro l hm
    obtain ⟨p, hp, rfl⟩ := Option.map_eq_some_iff.mp hm
    rw [String.toList_ofList]
    exact isPlain_of_pathOf? hp
  unfold targetPath? at h
  dsimp only at h
  split at h
  · cases h
  split at h
  · cases h
  · cases h
    exact List.all_iff_forall_prop.mp (hfixed _ (by simp))
  · exact hpath h
  split at h
  · split at h
    · cases h
    obtain ⟨p, hp, he⟩ := Option.map_eq_some_iff.mp h
    split at he
    · cases he
      exact List.all_iff_forall_prop.mp (hfixed _ (by simp))
    · exact hpath (Option.map_eq_some_iff.mpr ⟨p, hp, he⟩)
  · split at h
    · cases h
      exact List.all_iff_forall_prop.mp (hfixed _ (by simp))
    · cases h

theorem isPlain_of_targetPath?_slash (h : targetPath? target = some ("/" ++ name)) :
    ∀ c ∈ name.toList, IsPlain c := by
  intro c hc
  refine isPlain_of_targetPath? h c ?_
  rw [String.toList_append]
  exact List.mem_append_right _ hc

/-- A path that may stand in a target is its own target, unless it is too long. -/
theorem targetPath?_slash_append (h : ∀ c ∈ name.toList, IsPlain c)
    (hs : ("/" ++ name).utf8ByteSize ≤ maxTarget) :
    targetPath? ("/" ++ name) = some ("/" ++ name) := by
  have hl : ("/" ++ name).toList = '/' :: name.toList := String.toList_append
  have hplain : ∀ c ∈ '/' :: name.toList, IsPlain c :=
    List.forall_mem_cons.mpr ⟨by decide, h⟩
  simp only [targetPath?, hl, if_neg (Nat.not_lt.mpr hs)]
  rw [pathOf?_of_isPlain hplain, ← hl, Option.map_some, String.ofList_toList]

end ShellDocs.Preview
