import ShellDocs.Block.Printer
import ShellDocs.Generate
import ShellDocs.Proofs.Grouping
import ShellDocs.Proofs.Text.Bytes

/-! # The order of insertion

Scripts are inserted one by one under their paths, and the fields of each under their names. All
that is made of them depends on the last value under each key alone, and comes in the order of the
bytes of the keys.
-/

namespace ShellDocs

open Page

section Insertions

universe u v w

variable {κ : Type u} {β : Type v} {γ : Type w} [DecidableEq κ]

/-- Two sequences of entries end with values that count as the same, under every key. -/
def EndAlike (same : β → β → Prop) (l l' : List (κ × β)) : Prop :=
  ∀ k, Option.Rel same (l.reverse.lookup k) (l'.reverse.lookup k)

theorem endAlike_of_keys {same : β → β → Prop} {l l' : List (κ × β)}
    (h : ∀ k ∈ (l ++ l').map (·.1), Option.Rel same (l.reverse.lookup k) (l'.reverse.lookup k)) :
    EndAlike same l l' := by
  intro k
  by_cases hk : k ∈ (l ++ l').map (·.1)
  · exact h k hk
  · have hnone : ∀ entries : List (κ × β), entries ⊆ l ++ l' →
        entries.reverse.lookup k = none := by
      intro entries hsub
      refine List.lookup_eq_none_iff.mpr fun e he => ?_
      have hne : k ≠ e.1 := by
        rintro rfl
        exact hk (List.mem_map_of_mem (hsub (List.mem_reverse.mp he)))
      simpa using hne
    rw [hnone l (List.subset_append_left l l'), hnone l' (List.subset_append_right l l')]
    exact .none

variable [LT κ] [DecidableLT κ] [LE κ] [Std.IsLinearOrder κ] [Std.LawfulOrderLT κ]

theorem ofList_map_eq {same : β → β → Prop} {f : β → γ} (hf : ∀ x y, same x y → f x = f y)
    {l l' : List (κ × β)} (h : EndAlike same l l') :
    OrderedMap.ofList (l.map fun e => (e.1, f e.2)) =
      OrderedMap.ofList (l'.map fun e => (e.1, f e.2)) := by
  refine OrderedMap.ext_get? fun k => ?_
  rw [OrderedMap.get?_ofList, OrderedMap.get?_ofList, ← List.map_reverse, ← List.map_reverse,
    OrderedMap.lookup_map_snd, OrderedMap.lookup_map_snd]
  have hk := h k
  generalize l.reverse.lookup k = last at hk
  generalize l'.reverse.lookup k = last' at hk
  cases hk with
  | some hs => exact congrArg some (hf _ _ hs)
  | none => rfl

theorem ofList_eq {l l' : List (κ × β)} (h : EndAlike Eq l l') :
    OrderedMap.ofList l = OrderedMap.ofList l' := by
  simpa using ofList_map_eq (f := id) (fun _ _ => id) h

end Insertions

/-- The scripts that are inserted one after the other, each with the fields that were inserted into
it one after the other. -/
def DocSet.ofInsertions (calls : List (String × List (String × String))) : DocSet :=
  OrderedMap.ofList (calls.map fun c => (c.1, OrderedMap.ofList c.2))

theorem ofInsertions_eq {calls calls' : List (String × List (String × String))}
    (h : EndAlike (EndAlike Eq) calls calls') :
    DocSet.ofInsertions calls = DocSet.ofInsertions calls' :=
  ofList_map_eq (fun _ _ => ofList_eq) h

section Listed

def ByteAscending (texts : List String) : Prop :=
  texts.Pairwise fun a b => Text.bytes a < Text.bytes b

theorem byteAscending_of_ascending {texts : List String} (h : texts.Pairwise (· < ·)) :
    ByteAscending texts :=
  h.imp Text.bytes_lt_bytes

theorem byteAscending_keys {β : Type} (m : OrderedMap String β) : ByteAscending m.keys :=
  byteAscending_of_ascending m.keys_ascending

variable {docs : DocSet}

theorem byteAscending_filter (docs : DocSet) (p : Script → Bool) :
    ByteAscending ((docs.entries.filter p).map (·.1)) := by
  refine byteAscending_of_ascending (docs.keys_ascending.sublist ?_)
  exact List.filter_sublist.map _

/-- All that is listed stands in the order of bytes. -/
structure Listed (docs : DocSet) : Prop where
  paths : ByteAscending docs.keys
  categories : ByteAscending docs.byCategory.keys
  inCategory : ∀ e ∈ docs.byCategory.entries, ByteAscending (e.2.map (·.1))
  directories : ByteAscending docs.byDirectory.keys
  inDirectory : ∀ e ∈ docs.byDirectory.entries, ByteAscending (e.2.map (·.1))
  groups : ByteAscending (Page.groups docs).keys
  inGroup : ∀ e ∈ (Page.groups docs).entries, ByteAscending (e.2.map (·.1))
  skipped : ByteAscending (groupsWithoutPage docs)
  fields : ∀ e ∈ docs.entries, ByteAscending e.2.keys
  printed : ∀ e ∈ docs.entries, ByteAscending (Block.source e.2).keys

theorem listed (docs : DocSet) : Listed docs where
  paths := byteAscending_keys docs
  categories := byteAscending_keys docs.byCategory
  inCategory e he := by
    rw [OrderedMap.snd_of_mem_groupBy he]
    exact byteAscending_filter docs _
  directories := byteAscending_keys docs.byDirectory
  inDirectory e he := by
    rw [OrderedMap.snd_of_mem_groupBy he]
    exact byteAscending_filter docs _
  groups := byteAscending_keys (groups docs)
  inGroup e he := by
    rw [DocSet.byDirectory_snd ((claimFiles_sublist _ _).mem he)]
    exact byteAscending_filter docs _
  skipped := by
    refine byteAscending_of_ascending ?_
    exact docs.byDirectory.keys_ascending.sublist List.filter_sublist
  fields e _ := byteAscending_keys e.2
  printed e _ := byteAscending_keys (Block.source e.2)

end Listed

section Same

/-- Two sets of scripts give rise to the same lists, pages, files, notices and blocks. -/
structure SameSite (docs docs' : DocSet) : Prop where
  paths : docs.keys = docs'.keys
  byCategory : docs.byCategory = docs'.byCategory
  byDirectory : docs.byDirectory = docs'.byDirectory
  groups : Page.groups docs = Page.groups docs'
  components : render (components docs) = render (components docs')
  index : ∀ options, render (index options docs) = render (index options docs')
  pages : ∀ options,
    (Page.groups docs).entries.map (fun e => (e.1, render (groupPage options e.1 e.2))) =
      (Page.groups docs').entries.map fun e => (e.1, render (groupPage options e.1 e.2))
  navigation : navigation (Page.groups docs).keys = navigation (Page.groups docs').keys
  plan : ∀ options, plan options docs = plan options docs'
  notices : planNotices docs = planNotices docs'
  blocks : ∀ path, (docs.get? path).map Block.print = (docs'.get? path).map Block.print

theorem SameSite.refl (docs : DocSet) : SameSite docs docs := by
  constructor <;> intros <;> rfl

/-- Two sequences of insertions that end with the same fields under every path give rise to the
same site, with all that it lists in the order of bytes. -/
theorem sameSite_of_endAlike {calls calls' : List (String × List (String × String))}
    (h : EndAlike (EndAlike Eq) calls calls') :
    SameSite (DocSet.ofInsertions calls) (DocSet.ofInsertions calls') ∧
      Listed (DocSet.ofInsertions calls) ∧ Listed (DocSet.ofInsertions calls') := by
  rw [ofInsertions_eq h]
  exact ⟨.refl _, listed _, listed _⟩

def sampleCalls : List (String × List (String × String)) :=
  [("a/x.sh", [("name", "X"), ("name", "Y"), ("usage", "x")]), ("b.sh", [])]

def sampleCallsAgain : List (String × List (String × String)) :=
  [("b.sh", [("name", "B")]), ("a/x.sh", [("usage", "x"), ("name", "Y")]), ("b.sh", [])]

theorem sameSite_sampleCalls :
    EndAlike (EndAlike Eq) sampleCalls sampleCallsAgain ∧
      SameSite (DocSet.ofInsertions sampleCalls) (DocSet.ofInsertions sampleCallsAgain) := by
  have hx : EndAlike Eq [("name", "X"), ("name", "Y"), ("usage", "x")]
      [("usage", "x"), ("name", "Y")] := by
    refine endAlike_of_keys fun name hn => ?_
    obtain rfl | rfl : name = "name" ∨ name = "usage" := by
      simp only [List.cons_append, List.nil_append, List.map_cons, List.map_nil, List.mem_cons,
        List.not_mem_nil, or_false] at hn
      tauto
    · exact .some rfl
    · exact .some rfl
  have h : EndAlike (EndAlike Eq) sampleCalls sampleCallsAgain := by
    refine endAlike_of_keys fun path hp => ?_
    obtain rfl | rfl : path = "a/x.sh" ∨ path = "b.sh" := by
      simp only [sampleCalls, sampleCallsAgain, List.cons_append, List.nil_append, List.map_cons,
        List.map_nil, List.mem_cons, List.not_mem_nil, or_false] at hp
      tauto
    · exact .some hx
    · exact .some fun _ => .none
  exact ⟨h, (sameSite_of_endAlike h).1⟩

end Same

end ShellDocs
