import Mathlib.Data.Bool.AllAny
import ShellDocs.Text.Case

/-! # What lower case leaves alone

The characters of ASCII that are no letters stand in a text in lower case where they stood before:
none of them is changed, and no other character becomes one.
-/

namespace ShellDocs.Text

variable {c d : Char}

def IsCaseless (c : Char) : Prop :=
  c.toNat < 0x41 ∨ 0x5A < c.toNat ∧ c.toNat < 0x61 ∨ 0x7A < c.toNat ∧ c.toNat < 0x80

instance (c : Char) : Decidable (IsCaseless c) := by unfold IsCaseless; infer_instance

section Characters

/-- A run that leads to small letters or beyond ASCII and stays among the characters. -/
def CaseRun.IsCased (r : CaseRun) : Prop :=
  (0x61 ≤ r.first + r.shift ∧ r.last + r.shift ≤ 0x7A ∨ 0x80 ≤ r.first + r.shift) ∧
    (r.last + r.shift < 0xD800 ∨ 0xDFFF < r.first + r.shift ∧ r.last + r.shift < 0x110000)

instance (r : CaseRun) : Decidable r.IsCased := by unfold CaseRun.IsCased; infer_instance

theorem lowerRuns_isCased : ∀ r ∈ lowerRuns, r.IsCased := by decide +kernel

theorem CaseRun.IsCased.move {r : CaseRun} {n : Nat} (h : r.IsCased) (hn : r.covers n) :
    ¬ IsCaseless (r.move n) := by
  obtain ⟨hcased, hvalid⟩ := h
  simp only [covers, Bool.and_eq_true, decide_eq_true_eq] at hn
  obtain ⟨⟨hfirst, hlast⟩, -⟩ := hn
  have hv : (n + r.shift).toNat.isValidChar := by
    unfold Nat.isValidChar
    omega
  have ht : (r.move n).toNat = (n + r.shift).toNat := by
    rw [CaseRun.move, Char.ofNat, dif_pos hv]
    rfl
  unfold IsCaseless
  omega

theorem not_isCaseless_moveBy (h : moveBy lowerRuns c = some d) : ¬ IsCaseless d := by
  obtain ⟨r, hf, rfl⟩ := Option.map_eq_some_iff.mp h
  have hc : r.covers c.toNat := by simpa using List.find?_some hf
  exact (lowerRuns_isCased r (List.mem_of_find?_eq_some hf)).move hc

theorem toLower_eq_of_isCaseless (h : IsCaseless c) : c.toLower = c := by
  unfold Char.toLower
  refine dif_neg fun hc => ?_
  have hlow : 0x41 ≤ c.toNat := hc.1
  have hhigh : c.toNat ≤ 0x5A := hc.2
  unfold IsCaseless at h
  omega

theorem not_isCaseless_toLower (h : ¬ IsCaseless c) : ¬ IsCaseless c.toLower := by
  unfold Char.toLower
  split
  · rename_i hc
    have hlow : 0x41 ≤ c.toNat := hc.1
    have hhigh : c.toNat ≤ 0x5A := hc.2
    have hshift : ('a'.val - 'A'.val).toNat = 0x20 := rfl
    have hto : ∀ hv, (Char.mk (c.val + ('a'.val - 'A'.val)) hv).toNat = c.toNat + 0x20 := by
      intro hv
      change (c.val + ('a'.val - 'A'.val)).toNat = c.val.toNat + 0x20
      have hc : c.val.toNat ≤ 0x5A := hhigh
      rw [UInt32.toNat_add, hshift]
      omega
    unfold IsCaseless
    rw [hto]
    omega
  · exact h

theorem lowerChar_of_isCaseless (h : IsCaseless c) : lowerChar c = [c] := by
  have hascii : c.toNat < 0x80 := by
    unfold IsCaseless at h
    omega
  rw [lowerChar, if_pos hascii, toLower_eq_of_isCaseless h]

theorem not_isCaseless_of_mem_lowerChar (h : ¬ IsCaseless c) (hd : d ∈ lowerChar c) :
    ¬ IsCaseless d := by
  unfold lowerChar at hd
  split at hd
  · obtain rfl := List.mem_singleton.mp hd
    exact not_isCaseless_toLower h
  split at hd
  · have hdotted : ∀ e ∈ ['i', '\u0307'], ¬ IsCaseless e :=
      List.all_iff_forall_prop.mp (by decide)
    exact hdotted d hd
  · obtain rfl := List.mem_singleton.mp hd
    cases hm : moveBy lowerRuns c with
    | none => exact h
    | some e => exact not_isCaseless_moveBy hm

theorem lowerChar_ne_nil (c : Char) : lowerChar c ≠ [] := by
  unfold lowerChar
  split
  · exact List.cons_ne_nil _ _
  split <;> exact List.cons_ne_nil _ _

end Characters

/-- The texts have the same caseless characters at the same places, and something else at the same
places between them. -/
inductive Recased : List Char → List Char → Prop
  | nil : Recased [] []
  | keep {c : Char} {l l' : List Char} : IsCaseless c → Recased l l' → Recased (c :: l) (c :: l')
  | change {c : Char} {l block l' : List Char} : ¬ IsCaseless c → block ≠ [] →
      (∀ d ∈ block, ¬ IsCaseless d) → Recased l l' → Recased (c :: l) (block ++ l')

theorem recased_lowerAfter (before l : List Char) : Recased l (lowerAfter before l) := by
  induction l generalizing before with
  | nil => exact .nil
  | cons c l ih =>
    unfold lowerAfter
    split
    · rename_i hc
      refine .change (hc ▸ by decide) (List.cons_ne_nil _ _) ?_ (ih _)
      intro d hd
      obtain rfl := List.mem_singleton.mp hd
      split <;> decide
    · by_cases hc : IsCaseless c
      · rw [lowerChar_of_isCaseless hc]
        exact .keep hc (ih _)
      · exact .change hc (lowerChar_ne_nil c) (fun d => not_isCaseless_of_mem_lowerChar hc) (ih _)

theorem recased_lower (s : String) : Recased s.toList (lower s).toList := by
  rw [lower, String.toList_ofList]
  exact recased_lowerAfter [] s.toList

theorem Recased.mem_iff {l l' : List Char} (h : Recased l l') (hd : IsCaseless d) :
    d ∈ l' ↔ d ∈ l := by
  induction h with
  | nil => rfl
  | keep _ _ ih => rw [List.mem_cons, List.mem_cons, ih]
  | @change c l block l' hc _ hblock _ ih =>
    have hne : d ≠ c := fun he => hc (he ▸ hd)
    have hnot : d ∉ block := fun hm => hblock d hm hd
    rw [List.mem_append, List.mem_cons, ih, or_iff_right hnot, or_iff_right hne]

theorem Recased.head?_eq_some_iff {l l' : List Char} (h : Recased l l') (hd : IsCaseless d) :
    l'.head? = some d ↔ l.head? = some d := by
  cases h with
  | nil => rfl
  | keep => rfl
  | @change c l block l' hc hne hblock =>
    obtain ⟨e, block, rfl⟩ := List.exists_cons_of_ne_nil hne
    have he : e ≠ d := fun he => hblock e List.mem_cons_self (he ▸ hd)
    have hcd : c ≠ d := fun he => hc (he ▸ hd)
    simp [he, hcd]

theorem mem_lower_iff {s : String} (hd : IsCaseless d) : d ∈ (lower s).toList ↔ d ∈ s.toList :=
  (recased_lower s).mem_iff hd

theorem mem_lower {s : String} (h : d ∈ (lower s).toList) (hd : IsCaseless d) : d ∈ s.toList :=
  (mem_lower_iff hd).mp h

end ShellDocs.Text
