import Mathlib.Algebra.Ring.Nat
import Mathlib.Data.List.Perm.Basic
import ShellDocs.DocSet
import ShellDocs.Proofs.OrderedMap

/-! # Groups are a partition

Grouping a list by a key puts every member into the group of its key and into no other. The
groups of some keys together hold exactly the members with these keys.
-/

namespace ShellDocs

universe u w

section Partition

variable {α : Type w} {κ : Type u} [DecidableEq κ] {key : α → κ} {ks : List κ} {l : List α}

theorem filter_cons_perm (k : κ) (hk : k ∉ ks) (l : List α) :
    (l.filter (key · ∈ k :: ks)).Perm (l.filter (key · = k) ++ l.filter (key · ∈ ks)) := by
  have hsplit := List.filter_append_perm (key · = k) (l.filter (key · ∈ k :: ks))
  rw [List.filter_filter, List.filter_filter] at hsplit
  refine hsplit.symm.trans (List.Perm.of_eq ?_)
  congr 1 <;> refine List.filter_congr fun a _ => ?_ <;> by_cases ha : key a = k <;> simp [ha, hk]

theorem flatMap_filter_perm (h : ks.Nodup) (l : List α) :
    (ks.flatMap fun k => l.filter (key · = k)).Perm (l.filter (key · ∈ ks)) := by
  induction ks with
  | nil => simp
  | cons k ks ih =>
    rw [List.nodup_cons] at h
    rw [List.flatMap_cons]
    exact ((ih h.2).append_left _).trans (filter_cons_perm k h.1 l).symm

theorem sum_length_filter (h : ks.Nodup) (l : List α) :
    (ks.map fun k => (l.filter (key · = k)).length).sum = (l.filter (key · ∈ ks)).length := by
  rw [← (flatMap_filter_perm h l).length_eq, List.length_flatMap]

end Partition

namespace OrderedMap

variable {α : Type w} {κ : Type u} [LT κ] [DecidableLT κ] [DecidableEq κ] [LE κ]
  [Std.IsLinearOrder κ] [Std.LawfulOrderLT κ]

theorem mem_keys_groupBy {key : α → κ} {l : List α} {k : κ} :
    k ∈ (groupBy key l).keys ↔ ∃ a ∈ l, key a = k := by
  rw [mem_keys_iff, get?_groupBy]
  split
  · rename_i hnil
    simp only [reduceCtorEq, exists_false, false_iff]
    rintro ⟨a, ha, hk⟩
    have hm : a ∈ l.filter (key · = k) := List.mem_filter.mpr ⟨ha, by simpa using hk⟩
    rw [hnil] at hm
    cases hm
  · rename_i hne
    obtain ⟨a, ha⟩ := List.exists_mem_of_ne_nil _ hne
    obtain ⟨ha, hk⟩ := List.mem_filter.mp ha
    simp only [Option.some.injEq, exists_eq', true_iff]
    exact ⟨a, ha, by simpa using hk⟩

theorem snd_of_mem_groupBy {key : α → κ} {l : List α} {e : κ × List α}
    (h : e ∈ (groupBy key l).entries) : e.2 = l.filter (key · = e.1) := by
  have hg := mem_entries_iff.mp h
  rw [get?_groupBy] at hg
  split at hg
  · cases hg
  · exact (Option.some.inj hg).symm

end OrderedMap

namespace DocSet

/-- The scripts of a category in ascending order of their paths. -/
def inCategory (docs : DocSet) (category : String) : List Script :=
  docs.entries.filter (·.2.category = category)

/-- The scripts of a directory group in ascending order of their paths. -/
def inGroup (docs : DocSet) (group : String) : List Script :=
  docs.entries.filter (directoryGroup ·.1 = group)

theorem byCategory_entries (docs : DocSet) :
    docs.byCategory.entries = docs.byCategory.keys.map fun c => (c, docs.inCategory c) := by
  rw [OrderedMap.keys, List.map_map]
  refine (List.map_id _).symm.trans (List.map_congr_left fun e he => ?_)
  exact Prod.ext rfl (OrderedMap.snd_of_mem_groupBy he)

theorem byDirectory_snd {docs : DocSet} {e : String × List Script}
    (h : e ∈ docs.byDirectory.entries) : e.2 = docs.inGroup e.1 :=
  OrderedMap.snd_of_mem_groupBy h

theorem mem_byCategory_keys {docs : DocSet} {category : String} :
    category ∈ docs.byCategory.keys ↔ ∃ s ∈ docs.entries, s.2.category = category :=
  OrderedMap.mem_keys_groupBy

theorem mem_byDirectory_keys {docs : DocSet} {group : String} :
    group ∈ docs.byDirectory.keys ↔ ∃ s ∈ docs.entries, directoryGroup s.1 = group :=
  OrderedMap.mem_keys_groupBy

end DocSet

end ShellDocs
