import ShellDocs.OrderedMap

/-! # Look-ups and entries

A map is determined by its look-ups, because its entries stand in strictly ascending order.
Of the entries that a map is made from, the last with a key is the one that counts. Changing the
values alone changes no key, and commutes with grouping.
-/

namespace ShellDocs.OrderedMap

universe u v w

variable {κ : Type u} {β : Type v} {γ : Type w} [LT κ]

theorem keys_ascending (m : OrderedMap κ β) : m.keys.Pairwise (· < ·) := by
  simpa only [keys, List.pairwise_map] using m.ascending

theorem nodup_keys [LE κ] [Std.LawfulOrderLT κ] (m : OrderedMap κ β) : m.keys.Nodup := by
  refine m.keys_ascending.imp fun {a b} hlt (he : a = b) => ?_
  exact Std.lt_irrefl (he ▸ hlt)

def mapValues (f : β → γ) (m : OrderedMap κ β) : OrderedMap κ γ where
  entries := m.entries.map fun e => (e.1, f e.2)
  ascending := by simpa only [List.pairwise_map] using m.ascending

@[simp] theorem entries_mapValues (f : β → γ) (m : OrderedMap κ β) :
    (m.mapValues f).entries = m.entries.map fun e => (e.1, f e.2) := rfl

@[simp] theorem keys_mapValues (f : β → γ) (m : OrderedMap κ β) :
    (m.mapValues f).keys = m.keys := by
  simp [keys, Function.comp_def]

variable [DecidableEq κ]

omit [LT κ] in
theorem lookup_map_snd (f : β → γ) (l : List (κ × β)) (k : κ) :
    (l.map fun e => (e.1, f e.2)).lookup k = (l.lookup k).map f := by
  induction l with
  | nil => rfl
  | cons e l ih =>
    rw [List.map_cons, List.lookup_cons, List.lookup_cons, ih]
    split <;> rfl

@[simp] theorem get?_mapValues (f : β → γ) (m : OrderedMap κ β) (k : κ) :
    (m.mapValues f).get? k = (m.get? k).map f :=
  lookup_map_snd f m.entries k

@[simp] theorem get?_erase (m : OrderedMap κ β) (j k : κ) :
    (m.erase j).get? k = if k = j then none else m.get? k := by
  simp only [erase, get?_filter]
  grind

variable [LE κ] [Std.IsLinearOrder κ] [Std.LawfulOrderLT κ]

theorem mem_keys_iff {m : OrderedMap κ β} {k : κ} : k ∈ m.keys ↔ ∃ x, m.get? k = some x := by
  simp only [keys, List.mem_map]
  constructor
  · rintro ⟨e, he, rfl⟩
    exact ⟨e.2, mem_entries_iff.mp he⟩
  · rintro ⟨x, hx⟩
    exact ⟨(k, x), mem_entries_iff.mpr hx, rfl⟩

theorem ext_get? {m n : OrderedMap κ β} (h : ∀ k, m.get? k = n.get? k) : m = n := by
  have hmem : ∀ e, e ∈ m.entries ↔ e ∈ n.entries := fun e => by
    rw [mem_entries_iff, mem_entries_iff, h]
  have hp : m.entries.Perm n.entries := by
    refine (List.perm_ext_iff_of_nodup ?_ ?_).mpr hmem
    · exact m.ascending.imp fun hab he => absurd (he ▸ hab) Std.lt_irrefl
    · exact n.ascending.imp fun hab he => absurd (he ▸ hab) Std.lt_irrefl
  refine ext_entries (hp.eq_of_pairwise (fun a b _ _ hab hba => ?_) m.ascending n.ascending)
  exact absurd hba (Std.not_lt.mpr (Std.le_of_lt hab))

omit [Std.IsLinearOrder κ] in
theorem lookup_reverse_eq {l : List (κ × β)} (h : l.Pairwise (fun a b => a.1 < b.1)) (k : κ) :
    l.reverse.lookup k = l.lookup k := by
  induction l with
  | nil => rfl
  | cons e l ih =>
    obtain ⟨j, x⟩ := e
    rw [List.pairwise_cons] at h
    rw [List.reverse_cons, List.lookup_append, ih h.2, List.lookup_cons, List.lookup_nil,
      List.lookup_cons]
    by_cases hk : k = j
    · subst hk
      have hn : l.lookup k = none := List.lookup_eq_none_iff.mpr fun d hd => by
        have hne : k ≠ d.1 := fun he => Std.lt_irrefl (he ▸ h.1 d hd)
        simpa using hne
      simp [hn]
    · have hb : (k == j) = false := by simpa using hk
      simp [hb]

variable [DecidableLT κ]

theorem get?_foldl_insert (l : List (κ × β)) (m : OrderedMap κ β) (k : κ) :
    (l.foldl (fun m e => m.insert e.1 e.2) m).get? k = (l.reverse.lookup k).or (m.get? k) := by
  induction l generalizing m with
  | nil => simp
  | cons e l ih =>
    obtain ⟨j, x⟩ := e
    rw [List.foldl_cons, ih, get?_insert, List.reverse_cons, List.lookup_append,
      List.lookup_cons, List.lookup_nil, Option.or_assoc]
    by_cases h : k = j
    · simp [h]
    · have hb : (k == j) = false := by simpa using h
      simp [h, hb]

/-- The group of a key holds the members with this key, and there is no empty group. -/
theorem get?_groupBy {α : Type w} (key : α → κ) (l : List α) (k : κ) :
    (groupBy key l).get? k =
      if l.filter (key · = k) = [] then none else some (l.filter (key · = k)) := by
  induction l with
  | nil => rfl
  | cons a l ih =>
    have hstep : groupBy key (a :: l) =
        (groupBy key l).insert (key a) (a :: ((groupBy key l).get? (key a)).getD []) := rfl
    rw [hstep, get?_insert]
    by_cases hk : k = key a
    · subst hk
      rw [if_pos rfl, ih, List.filter_cons_of_pos (by simp), if_neg (List.cons_ne_nil _ _)]
      by_cases hl : l.filter (key · = key a) = []
      · rw [if_pos hl, hl, Option.getD_none]
      · rw [if_neg hl, Option.getD_some]
    · rw [if_neg hk, ih, List.filter_cons_of_neg (by simpa using Ne.symm hk)]

theorem groupBy_map {α α' : Type w} (key : α' → κ) (g : α → α') (l : List α) :
    groupBy key (l.map g) = (groupBy (fun a => key (g a)) l).mapValues (List.map g) := by
  refine ext_get? fun k => ?_
  rw [get?_mapValues, get?_groupBy, get?_groupBy, List.filter_map]
  by_cases hl : l.filter (fun a => key (g a) = k) = []
  · simp [Function.comp_def, hl]
  · rw [if_neg hl, if_neg (by simpa using hl), Option.map_some]
    rfl

theorem exists_of_mem_groupBy {α : Type w} {key : α → κ} {l : List α} {e : κ × List α}
    (h : e ∈ (groupBy key l).entries) : ∃ a ∈ l, key a = e.1 := by
  have hg := mem_entries_iff.mp h
  rw [get?_groupBy] at hg
  split at hg
  · cases hg
  · rename_i hne
    obtain ⟨a, ha⟩ := List.exists_mem_of_ne_nil _ hne
    obtain ⟨ha, hk⟩ := List.mem_filter.mp ha
    exact ⟨a, ha, by simpa using hk⟩

theorem get?_ofList (l : List (κ × β)) (k : κ) : (ofList l).get? k = l.reverse.lookup k := by
  simp [ofList, get?_foldl_insert]

theorem get?_ofList_eq_some_iff {l : List (κ × β)} (h : (l.map (·.1)).Nodup) {k : κ} {x : β} :
    (ofList l).get? k = some x ↔ (k, x) ∈ l := by
  have hr : (l.reverse.map (·.1)).Nodup := by
    rw [List.map_reverse]
    exact (List.reverse_perm _).nodup_iff.mpr h
  rw [get?_ofList, ← List.mem_reverse]
  generalize l.reverse = r at hr
  induction r with
  | nil => simp
  | cons e r ih =>
    obtain ⟨j, y⟩ := e
    rw [List.map_cons, List.nodup_cons] at hr
    rw [List.lookup_cons, List.mem_cons]
    by_cases hk : k = j
    · subst hk
      have hn : (k, x) ∉ r := fun hm => hr.1 (List.mem_map.mpr ⟨(k, x), hm, rfl⟩)
      simp [hn, eq_comm]
    · have hb : (k == j) = false := by simpa using hk
      simp [hb, hk, ih hr.2]

theorem keys_ofList_perm {l : List (κ × β)} (h : (l.map (·.1)).Nodup) :
    (ofList l).keys.Perm (l.map (·.1)) := by
  rw [List.perm_ext_iff_of_nodup (nodup_keys _) h]
  intro k
  rw [mem_keys_iff, List.mem_map]
  constructor
  · rintro ⟨x, hx⟩
    exact ⟨(k, x), (get?_ofList_eq_some_iff h).mp hx, rfl⟩
  · rintro ⟨e, he, rfl⟩
    exact ⟨e.2, (get?_ofList_eq_some_iff h).mpr he⟩

@[simp] theorem ofList_entries (m : OrderedMap κ β) : ofList m.entries = m :=
  ext_get? fun k => by rw [get?_ofList, lookup_reverse_eq m.ascending, get?]

end ShellDocs.OrderedMap
