import ShellDocs.Proofs.Block.Layout
import ShellDocs.Proofs.Block.RoundTrip

/-! # Wrapped texts

The text of a field may be cut into pieces that stand on lines of their own, with comment signs and
white space around them and with empty lines in between. All wrappings of a text at its single
spaces read the same, and so does the one line that is written for it.
-/

namespace ShellDocs.Block

open Text

/-- A part of a text that can stand on a line of its own. -/
def IsPiece (p : List Char) : Prop := p ≠ [] ∧ '\n' ∉ p ∧ trim p = p

def Padded (p l : List Char) : Prop :=
  ∃ lead trail, (∀ c ∈ lead, isWhite c) ∧ (∀ c ∈ trail, isWhite c) ∧ l = lead ++ p ++ trail

/-- The lines have the pieces in this order. Each is on a line of its own, behind a comment sign
that only a piece without one in front may lack, and all other lines are empty but for a comment
sign. -/
inductive Spread : List (List Char) → List (List Char) → Prop
  | nil : Spread [] []
  | blank {l : List Char} {ps ls : List (List Char)} (h : ∀ c ∈ l, isWhite c) (hs : Spread ps ls) :
      Spread ps (l :: ls)
  | bare {lead l : List Char} {ps ls : List (List Char)} (hlead : ∀ c ∈ lead, isWhite c)
      (h : ∀ c ∈ l, isWhite c) (hs : Spread ps ls) : Spread ps ((lead ++ '#' :: l) :: ls)
  | signed {lead p l : List Char} {ps ls : List (List Char)} (hlead : ∀ c ∈ lead, isWhite c)
      (h : Padded p l) (hs : Spread ps ls) : Spread (p :: ps) ((lead ++ '#' :: l) :: ls)
  | plain {p l : List Char} {ps ls : List (List Char)} (hsign : p.head? ≠ some '#')
      (h : Padded p l) (hs : Spread ps ls) : Spread (p :: ps) (l :: ls)

/-- The pieces of a field: the first right behind the colon, unless nothing is there, and the rest
on the lines below. -/
def Pieces (ps : List (List Char)) (value : List Char) (below : List (List Char)) : Prop :=
  (∃ p rest, ps = p :: rest ∧ Padded p value ∧ Spread rest below) ∨
    (∀ c ∈ value, isWhite c) ∧ Spread ps below

/-- The first block of the text has the pieces in its last field with this name, which goes on to
the next annotation or the end of the block. -/
def Wraps (text name : String) (ps : List (List Char)) : Prop :=
  ∃ i j k m value, FirstBlock (lines text.toList) i j ∧
    LastField (between (lines text.toList) i j) name.toList k value ∧
    NextAnnotation (between (lines text.toList) i j) k m ∧
    Pieces ps value (between (between (lines text.toList) i j) k m)

def oneLine (ps : List (List Char)) : String := String.ofList ([' '].intercalate ps)

section Spread

variable {p l value : List Char} {ps below : List (List Char)}

theorem Padded.trim_eq (h : Padded p l) (hp : trim p = p) : trim l = p := by
  obtain ⟨lead, trail, hl, ht, rfl⟩ := h
  rw [trim_append_append hl ht, hp]

theorem continued_sign {lead : List Char} (h : ∀ c ∈ lead, isWhite c) (l : List Char) :
    continued (lead ++ '#' :: l) = trim l := by
  have hsign : trimStart ('#' :: l) = '#' :: l := List.dropWhile_cons_of_neg (by decide)
  rw [continued_eq, trimStart_append_of_white h, hsign, dropSign]

theorem continued_eq_self (hp : IsPiece p) (hsign : p.head? ≠ some '#') : continued p = p := by
  obtain ⟨hne, -, htrim⟩ := hp
  obtain ⟨c, rest, rfl⟩ := List.exists_cons_of_ne_nil hne
  have hc : c ≠ '#' := fun he => hsign (he ▸ rfl)
  have hw : ¬ isWhite c := (trim_eq_self_iff.mp htrim).1 c rfl
  have hs : trimStart (c :: rest) = c :: rest := List.dropWhile_cons_of_neg hw
  rw [continued_eq, hs, dropSign_cons_of_ne hc, htrim]

theorem Padded.continued_eq (h : Padded p l) (hp : IsPiece p) (hsign : p.head? ≠ some '#') :
    continued l = p := by
  obtain ⟨lead, trail, hl, ht, rfl⟩ := h
  rw [continued_append_append hl ht, continued_eq_self hp hsign]

theorem Spread.filter_continued_eq (h : Spread ps below) (hp : ∀ p ∈ ps, IsPiece p) :
    (below.map continued).filter (· ≠ []) = ps := by
  induction h with
  | nil => rfl
  | blank hw hs ih =>
    rw [List.map_cons, continued_of_white hw, List.filter_cons_of_neg (by simp), ih hp]
  | bare hlead hw hs ih =>
    rw [List.map_cons, continued_sign hlead, trim_eq_nil_of_white hw,
      List.filter_cons_of_neg (by simp), ih hp]
  | @signed lead p l ps ls hlead hl hs ih =>
    obtain ⟨hpiece, hrest⟩ := List.forall_mem_cons.mp hp
    rw [List.map_cons, continued_sign hlead, hl.trim_eq hpiece.2.2,
      List.filter_cons_of_pos (by simpa using hpiece.1), ih hrest]
  | @plain p l ps ls hsign hl hs ih =>
    obtain ⟨hpiece, hrest⟩ := List.forall_mem_cons.mp hp
    rw [List.map_cons, hl.continued_eq hpiece hsign,
      List.filter_cons_of_pos (by simpa using hpiece.1), ih hrest]

theorem Pieces.fieldText_eq (h : Pieces ps value below) (hp : ∀ p ∈ ps, IsPiece p) :
    fieldText value below = [' '].intercalate ps := by
  rw [← joinPieces_eq, joinPieces]
  rcases h with ⟨p, rest, rfl, hv, hs⟩ | ⟨hw, hs⟩
  · obtain ⟨hpiece, hrest⟩ := List.forall_mem_cons.mp hp
    rw [hv.trim_eq hpiece.2.2, List.filter_cons_of_pos (by simpa using hpiece.1),
      hs.filter_continued_eq hrest]
  · rw [trim_eq_nil_of_white hw, List.filter_cons_of_neg (by simp), hs.filter_continued_eq hp]

theorem Wraps.exists_read? {text name : String} (h : Wraps text name ps)
    (hp : ∀ p ∈ ps, IsPiece p) :
    ∃ f, read? text = some f ∧ f.get? name = some (oneLine ps) := by
  obtain ⟨i, j, k, m, value, hb, hk, hm, hs⟩ := h
  refine ⟨_, by rw [read?, hb.body?, Option.map_some], ?_⟩
  rw [(describes_written _).get?_eq name k value m hk hm, hs.fieldText_eq hp, oneLine]

theorem isFieldText_oneLine (hp : ∀ p ∈ ps, IsPiece p) : IsFieldText (oneLine ps) := by
  rw [IsFieldText, oneLine, String.toList_ofList]
  refine ⟨fun h => ?_, trim_intercalate fun p hm => ⟨(hp p hm).1, (hp p hm).2.2⟩⟩
  rcases mem_of_mem_intercalate h with h | ⟨p, hm, h⟩
  · simp at h
  · exact (hp p hm).2.1 h

theorem Normal.insert {f : Fields} {name text : String} (h : Normal f) (hn : IsFieldName name)
    (ht : IsFieldText text) : Normal (f.insert name text) := by
  intro name' text' hget
  rw [OrderedMap.get?_insert] at hget
  split at hget
  · rename_i he
    obtain rfl := Option.some.inj hget
    exact ⟨he ▸ hn, ht⟩
  · exact h name' text' hget

theorem exists_read?_print {f : Fields} {name text : String} (h : Normal f) (hn : IsFieldName name)
    (ht : IsFieldText text) (hpath : name ≠ Fields.pathName) :
    ∃ g, read? (print (f.insert name text)) = some g ∧ g.get? name = some text := by
  refine ⟨_, read?_print (h.insert hn ht).source, ?_⟩
  rw [source, OrderedMap.get?_erase, if_neg hpath, OrderedMap.get?_insert, if_pos rfl]

end Spread

/-- However the text of a field is wrapped, its pieces are read in one line. -/
theorem get?_of_wraps {name : String} {ps : List (List Char)} (hn : IsFieldName name)
    (hp : ∀ p ∈ ps, IsPiece p) :
    (∀ text, Wraps text name ps → ∃ f, read? text = some f ∧ f.get? name = some (oneLine ps)) ∧
    (∀ text ps', (∀ p ∈ ps', IsPiece p) → oneLine ps' = oneLine ps → Wraps text name ps' →
      ∃ f, read? text = some f ∧ f.get? name = some (oneLine ps)) ∧
    ∀ f : Fields, Normal f → name ≠ Fields.pathName →
      ∃ g, read? (print (f.insert name (oneLine ps))) = some g ∧
        g.get? name = some (oneLine ps) := by
  refine ⟨fun text h => h.exists_read? hp, fun text ps' hp' he h => ?_, fun f hf hpath => ?_⟩
  · exact he ▸ h.exists_read? hp'
  · exact exists_read?_print hf hn (isFieldText_oneLine hp) hpath

section Sample

theorem wraps_of_body? {text name : String} {l value : List Char} {ps below : List (List Char)}
    (hb : body? (lines text.toList) = some (l :: below)) (hl : IsField l name.toList value)
    (hprose : ∀ d ∈ below, isProse d) (hs : Pieces ps value below) : Wraps text name ps := by
  obtain ⟨i, j, hf, he⟩ := exists_firstBlock hb
  have hm := nextAnnotation_takeWhile l below
  rw [List.takeWhile_eq_self_iff.mpr hprose] at hm
  have hbelow : between (l :: below) 0 (below.length + 1) = below := by simp [between]
  refine ⟨i, j, 0, below.length + 1, value, hf, ?_, he ▸ hm, by rwa [← he, hbelow]⟩
  rw [← he]
  exact lastField_cons_zero.mpr ⟨hl, fun d hd v hv => isProse_iff.mp (hprose d hd) hv.annotates⟩

def sampleText : String := "# @doc\n# @name: a b\n#   #c\n\n  d\n# @/doc\n"

def samplePieces : List (List Char) := ["a b".toList, "#c".toList, "d".toList]

def rewrappedText : String := "# @doc\n# @name:\n#a\n b #c d\n#\n# @/doc\n"

def rewrappedPieces : List (List Char) := ["a".toList, "b #c d".toList]

theorem isFieldName_name : IsFieldName "name" :=
  ⟨by decide, List.all_eq_true.mp (by decide +kernel)⟩

theorem padded_append (lead : List Char) (h : lead.all isWhite) (p : List Char) :
    Padded p (lead ++ p) :=
  ⟨lead, [], List.all_eq_true.mp h, List.forall_mem_nil _, (List.append_nil _).symm⟩

theorem wraps_sampleText : Wraps sampleText "name" samplePieces := by
  have hb : body? (lines sampleText.toList) =
      some ("# @name: a b".toList :: ["#   #c".toList, [], "  d".toList]) := by decide +kernel
  have hfield : IsField "# @name: a b".toList "name".toList " a b".toList :=
    ⟨[], List.forall_mem_nil _, ⟨by decide, isFieldName_name.2⟩, rfl⟩
  refine wraps_of_body? hb hfield (by decide +kernel) ?_
  refine .inl ⟨_, _, rfl, padded_append [' '] rfl _, ?_⟩
  refine .signed (List.forall_mem_nil _) (padded_append "   ".toList rfl _) ?_
  refine .blank (List.forall_mem_nil _) ?_
  exact .plain (by decide) (padded_append "  ".toList rfl _) .nil

theorem wraps_rewrappedText : Wraps rewrappedText "name" rewrappedPieces := by
  have hb : body? (lines rewrappedText.toList) =
      some ("# @name:".toList :: ["#a".toList, " b #c d".toList, ['#']]) := by decide +kernel
  have hfield : IsField "# @name:".toList "name".toList [] :=
    ⟨[], List.forall_mem_nil _, ⟨by decide, isFieldName_name.2⟩, rfl⟩
  refine wraps_of_body? hb hfield (by decide +kernel) ?_
  refine .inr ⟨List.forall_mem_nil _, ?_⟩
  refine .signed (List.forall_mem_nil _) (padded_append [] rfl _) ?_
  refine .plain (by decide) (padded_append [' '] rfl _) ?_
  exact .bare (List.forall_mem_nil _) (List.forall_mem_nil _) .nil

theorem get?_of_wraps_sampleText :
    Wraps sampleText "name" samplePieces ∧ Wraps rewrappedText "name" rewrappedPieces ∧
      (∃ f, read? sampleText = some f ∧ f.get? "name" = some "a b #c d") ∧
      (∃ f, read? rewrappedText = some f ∧ f.get? "name" = some "a b #c d") ∧
      ∃ f g, Normal f ∧ read? (print (f.insert "name" "a b #c d")) = some g ∧
        g.get? "name" = some "a b #c d" := by
  have hone : oneLine samplePieces = "a b #c d" := by decide
  obtain ⟨hread, hother, hprint⟩ :=
    @get?_of_wraps "name" samplePieces isFieldName_name (by unfold IsPiece; decide)
  rw [hone] at hread hother hprint
  have husage : read? "# @doc\n# @usage: u\n# @/doc\n" =
      some (OrderedMap.ofList [("usage", "u")]) := by decide +kernel
  refine ⟨wraps_sampleText, wraps_rewrappedText, hread _ wraps_sampleText, ?_, ?_⟩
  · exact hother _ _ (by unfold IsPiece; decide) (by decide) wraps_rewrappedText
  · obtain ⟨g, hg⟩ := hprint _ (normal_of_read? husage) (by decide)
    exact ⟨_, g, normal_of_read? husage, hg⟩

end Sample

end ShellDocs.Block
