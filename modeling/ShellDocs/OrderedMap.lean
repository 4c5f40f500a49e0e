/-! # Ordered maps

A finite map is the list of its entries in strictly ascending order of keys. Each map
therefore has one form, and two maps with the same look-ups are equal.
-/

namespace ShellDocs

universe u v w

structure OrderedMap (κ : Type u) (β : Type v) [LT κ] where
  entries : List (κ × β)
  ascending : entries.Pairwise (fun a b => a.1 < b.1) := by simp
deriving DecidableEq

namespace OrderedMap

section Entries

variable {κ : Type u} {β : Type v} [LT κ] [DecidableLT κ]

/-- Puts an entry at its place, in the stead of an entry with the same key. -/
def insertEntry (k : κ) (x : β) : List (κ × β) → List (κ × β)
  | [] => [(k, x)]
  | e :: rest =>
    if k < e.1 then (k, x) :: e :: rest
    else if e.1 < k then e :: insertEntry k x rest
    else (k, x) :: rest

theorem mem_insertEntry {k : κ} {x : β} {e : κ × β} {l : List (κ × β)}
    (h : e ∈ insertEntry k x l) : e = (k, x) ∨ e ∈ l := by
  induction l with
  | nil => simpa [insertEntry] using h
  | cons d l ih => grind [insertEntry]

variable [LE κ] [Std.IsLinearOrder κ] [Std.LawfulOrderLT κ]

theorem insertEntry_ascending (k : κ) (x : β) {l : List (κ × β)}
    (h : l.Pairwise (fun a b => a.1 < b.1)) :
    (insertEntry k x l).Pairwise (fun a b => a.1 < b.1) := by
  induction l with
  | nil => simp [insertEntry]
  | cons e l ih =>
    rw [List.pairwise_cons] at h
    unfold insertEntry
    split
    · grind [List.pairwise_cons]
    · split
      · refine List.pairwise_cons.mpr ⟨fun d hd => ?_, ih h.2⟩
        rcases mem_insertEntry hd with rfl | hd
        · assumption
        · exact h.1 d hd
      · grind [List.pairwise_cons]

theorem lookup_insertEntry [DecidableEq κ] (k j : κ) (x : β) (l : List (κ × β)) :
    (insertEntry k x l).lookup j = if j = k then some x else l.lookup j := by
  induction l with
  | nil => grind [insertEntry]
  | cons e l ih =>
    unfold insertEntry
    split
    · grind
    · split
      · grind
      · have : k = e.1 := by grind
        grind

end Entries

variable {κ : Type u} {β : Type v} {γ : Type w} [LT κ]

instance : EmptyCollection (OrderedMap κ β) := ⟨⟨[], .nil⟩⟩

instance : Inhabited (OrderedMap κ β) := ⟨∅⟩

@[ext] theorem ext_entries {m n : OrderedMap κ β} (h : m.entries = n.entries) : m = n := by
  cases m; cases n; simpa using h

def keys (m : OrderedMap κ β) : List κ := m.entries.map (·.1)

def size (m : OrderedMap κ β) : Nat := m.entries.length

def isEmpty (m : OrderedMap κ β) : Bool := m.entries.isEmpty

def filter (p : κ → Bool) (m : OrderedMap κ β) : OrderedMap κ β where
  entries := m.entries.filter (fun e => p e.1)
  ascending := m.ascending.filter _

variable [DecidableEq κ]

def get? (m : OrderedMap κ β) (k : κ) : Option β := m.entries.lookup k

def contains (m : OrderedMap κ β) (k : κ) : Bool := (m.get? k).isSome

def erase (m : OrderedMap κ β) (k : κ) : OrderedMap κ β := m.filter (· ≠ k)

@[simp] theorem get?_empty (k : κ) : (∅ : OrderedMap κ β).get? k = none := rfl

@[simp] theorem get?_filter (m : OrderedMap κ β) (p : κ → Bool) (k : κ) :
    (m.filter p).get? k = if p k then m.get? k else none := by
  simp only [get?, filter]
  induction m.entries with
  | nil => simp
  | cons e l ih => grind

variable [LE κ] [Std.IsLinearOrder κ] [Std.LawfulOrderLT κ]

theorem mem_entries_iff {m : OrderedMap κ β} {e : κ × β} :
    e ∈ m.entries ↔ m.get? e.1 = some e.2 := by
  obtain ⟨l, h⟩ := m
  simp only [get?]
  induction l with
  | nil => simp
  | cons d l ih =>
    rw [List.pairwise_cons] at h
    have := ih h.2
    have hd := h.1 e
    rw [List.mem_cons, this]
    by_cases hk : e.1 = d.1
    · have hne : l.lookup e.1 ≠ some e.2 := fun he => by grind
      have : e = d ↔ e.2 = d.2 := by constructor <;> intro h' <;> grind
      grind
    · grind

variable [DecidableLT κ]

def insert (m : OrderedMap κ β) (k : κ) (x : β) : OrderedMap κ β where
  entries := insertEntry k x m.entries
  ascending := insertEntry_ascending k x m.ascending

@[simp] theorem get?_insert (m : OrderedMap κ β) (k j : κ) (x : β) :
    (m.insert k x).get? j = if j = k then some x else m.get? j :=
  lookup_insertEntry k j x m.entries

/-- Of two entries with one key the later counts. -/
def ofList (l : List (κ × β)) : OrderedMap κ β :=
  l.foldl (fun m e => m.insert e.1 e.2) ∅

/-- The members of a list under their keys, each group in the order of the list. -/
def groupBy {α : Type w} (key : α → κ) (l : List α) : OrderedMap κ (List α) :=
  l.foldr (fun a m => m.insert (key a) (a :: (m.get? (key a)).getD [])) ∅

end OrderedMap

end ShellDocs
