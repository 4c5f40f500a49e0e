import Mathlib.Data.Bool.AllAny
import Mathlib.Data.List.Infix
import ShellDocs.Proofs.Block.RoundTrip
import ShellDocs.Proofs.Page.Contents
import ShellDocs.Proofs.Scan.Trail
import ShellDocs.Proofs.Text.Case
import ShellDocs.Text.Punctuation

/-! # Where links lead

A link destination is written without angle brackets. It may hold no space, no control character and
no parenthesis without its partner, and it may not begin as a bracketed one does. Lower case leaves
all of these characters as they are, so a name leads to such a destination just if it is one itself.
-/

namespace ShellDocs.Page

open Text

section Parentheses

/-- The parentheses of a text without those after a backslash. `escaped` says whether a backslash
stands before the text. -/
def parentheses (escaped : Bool) : List Char → List Char
  | [] => []
  | c :: rest =>
    if escaped && isAsciiPunctuation c then parentheses false rest
    else if c = '\\' then parentheses true rest
    else if c = '(' ∨ c = ')' then c :: parentheses false rest
    else parentheses false rest

/-- Every parenthesis has its partner. -/
def Balanced (l : List Char) : Prop :=
  (∀ front, front <+: l → front.count ')' ≤ front.count '(') ∧ l.count ')' = l.count '('

instance (l : List Char) : Decidable (Balanced l) :=
  decidable_of_iff ((∀ front ∈ l.inits, front.count ')' ≤ front.count '(') ∧
    l.count ')' = l.count '(') (by simp only [List.mem_inits, Balanced])

variable {l l' block : List Char} {escaped : Bool}

theorem isCaseless_of_isAsciiPunctuation {c : Char} (h : isAsciiPunctuation c = true) :
    IsCaseless c := by
  simp only [isAsciiPunctuation, inRanges, asciiPunctuation, List.any_cons, List.any_nil,
    Bool.or_eq_true, Bool.and_eq_true, decide_eq_true_eq, Bool.false_eq_true, or_false] at h
  unfold IsCaseless
  omega

theorem parentheses_cons_of_ne {c : Char} (h : isAsciiPunctuation c = false) (rest : List Char) :
    parentheses escaped (c :: rest) = parentheses false rest := by
  have hne : ∀ d, isAsciiPunctuation d = true → c ≠ d := by
    rintro d hd rfl
    rw [h] at hd
    cases hd
  have hslash : c ≠ '\\' := hne '\\' (by decide)
  have hopen : c ≠ '(' := hne '(' (by decide)
  have hclose : c ≠ ')' := hne ')' (by decide)
  simp [parentheses, h, hslash, hopen, hclose]

theorem parentheses_append_of_ne (hne : block ≠ [])
    (h : ∀ c ∈ block, isAsciiPunctuation c = false) (rest : List Char) :
    parentheses escaped (block ++ rest) = parentheses false rest := by
  induction block generalizing escaped with
  | nil => exact absurd rfl hne
  | cons c block ih =>
    rw [List.cons_append, parentheses_cons_of_ne (h c List.mem_cons_self)]
    cases block with
    | nil => rfl
    | cons d block =>
      exact ih (List.cons_ne_nil d block) fun c hc => h c (List.mem_cons_of_mem _ hc)

theorem parentheses_eq_of_recased (h : Recased l l') :
    parentheses escaped l' = parentheses escaped l := by
  induction h generalizing escaped with
  | nil => rfl
  | keep _ _ ih => simp only [parentheses, ih]
  | @change c l block l' hc hne hblock _ ih =>
    have hother : ∀ {c}, ¬ IsCaseless c → isAsciiPunctuation c = false := fun hc =>
      Bool.eq_false_iff.mpr fun hp => hc (isCaseless_of_isAsciiPunctuation hp)
    rw [parentheses_append_of_ne hne fun d hd => hother (hblock d hd), ih,
      parentheses_cons_of_ne (hother hc)]

theorem parentheses_of_not_mem (hopen : '(' ∉ l) (hclose : ')' ∉ l) :
    parentheses escaped l = [] := by
  induction l generalizing escaped with
  | nil => rfl
  | cons c l ih =>
    rw [List.mem_cons, not_or] at hopen hclose
    simp [parentheses, ih hopen.2 hclose.2, Ne.symm hopen.1, Ne.symm hclose.1]

theorem parentheses_append_of_not_mem {rest : List Char} (hopen : '(' ∉ rest)
    (hclose : ')' ∉ rest) : parentheses escaped (l ++ rest) = parentheses escaped l := by
  induction l generalizing escaped with
  | nil => exact parentheses_of_not_mem hopen hclose
  | cons c l ih => simp only [List.cons_append, parentheses, ih]

/-- A hyphen in the place of a space may be escaped where the space was not, and is no parenthesis
either. -/
theorem parentheses_map_hyphen :
    parentheses escaped (l.map fun c => if c = ' ' then '-' else c) = parentheses escaped l := by
  induction l generalizing escaped with
  | nil => rfl
  | cons c l ih =>
    by_cases hc : c = ' '
    · subst hc
      cases escaped <;> simp [parentheses, ih]
    · simp only [List.map_cons, if_neg hc, parentheses, ih]

end Parentheses

section Bare

variable {target group category : String}

def IsControl (c : Char) : Prop := c.toNat < 0x20 ∨ c.toNat = 0x7F

instance (c : Char) : Decidable (IsControl c) := by unfold IsControl; infer_instance

/-- A destination that needs no angle brackets. -/
structure IsBare (target : String) : Prop where
  ne_empty : target ≠ ""
  clean : ∀ c ∈ target.toList, c ≠ ' ' ∧ ¬ IsControl c
  not_pointed : target.toList.head? ≠ some '<'
  balanced : Balanced (parentheses false target.toList)

theorem isCaseless_of_isControl {c : Char} (h : IsControl c) : IsCaseless c := by
  unfold IsControl at h
  unfold IsCaseless
  omega

theorem forall_mem_lower_iff {s : String} {P : Char → Prop} (hP : ∀ c, P c → IsCaseless c) :
    (∀ c ∈ (lower s).toList, ¬ P c) ↔ ∀ c ∈ s.toList, ¬ P c := by
  constructor
  · exact fun h c hc hp => h c ((mem_lower_iff (hP c hp)).mpr hc) hp
  · exact fun h c hc hp => h c ((mem_lower_iff (hP c hp)).mp hc) hp

theorem isBare_groupFile_iff : IsBare (groupFile group) ↔
    (∀ c ∈ group.toList, c ≠ ' ' ∧ ¬ IsControl c) ∧ group.toList.head? ≠ some '<' ∧
      Balanced (parentheses false group.toList) := by
  have hfile : (groupFile group).toList = (lower group).toList ++ ".md".toList :=
    String.toList_append
  have hclean : (∀ c ∈ (groupFile group).toList, c ≠ ' ' ∧ ¬ IsControl c) ↔
      ∀ c ∈ group.toList, c ≠ ' ' ∧ ¬ IsControl c := by
    have hmd : ∀ c ∈ ".md".toList, c ≠ ' ' ∧ ¬ IsControl c :=
      List.all_iff_forall_prop.mp (by decide)
    have hcaseless : ∀ c, c = ' ' ∨ IsControl c → IsCaseless c := by
      rintro c (rfl | hc)
      · decide
      · exact isCaseless_of_isControl hc
    rw [hfile, List.forall_mem_append, and_iff_left hmd]
    simpa only [not_or] using forall_mem_lower_iff hcaseless
  have hhead : (groupFile group).toList.head? = some '<' ↔ group.toList.head? = some '<' := by
    rw [hfile, List.head?_append, ← (recased_lower group).head?_eq_some_iff (by decide)]
    cases (lower group).toList.head? <;> simp
  have hparentheses : parentheses false (groupFile group).toList =
      parentheses false group.toList := by
    rw [hfile, parentheses_append_of_not_mem (by decide) (by decide),
      parentheses_eq_of_recased (recased_lower group)]
  rw [← hparentheses]
  constructor
  · intro h
    exact ⟨hclean.mp h.clean, fun he => h.not_pointed (hhead.mpr he), h.balanced⟩
  · rintro ⟨hc, hp, hb⟩
    refine ⟨fun he => ?_, hclean.mpr hc, fun he => hp (hhead.mp he), hb⟩
    rw [he] at hfile
    simp at hfile

/-- Spaces are no matter in a fragment, where hyphens stand for them. -/
theorem isBare_fragment_iff : IsBare ("#" ++ anchor category) ↔
    (∀ c ∈ category.toList, ¬ IsControl c) ∧ Balanced (parentheses false category.toList) := by
  have hfragment : ("#" ++ anchor category).toList =
      '#' :: (lower category).toList.map fun c => if c = ' ' then '-' else c := by
    have hhash : "#".toList = ['#'] := by decide
    rw [String.toList_append, hhash, anchor, String.toList_ofList, List.singleton_append]
  have hclean : (∀ c ∈ ("#" ++ anchor category).toList, c ≠ ' ' ∧ ¬ IsControl c) ↔
      ∀ c ∈ category.toList, ¬ IsControl c := by
    have hhash : '#' ≠ ' ' ∧ ¬ IsControl '#' := by decide
    have hhyphen : ∀ c : Char, ((if c = ' ' then '-' else c) ≠ ' ' ∧
        ¬ IsControl (if c = ' ' then '-' else c)) ↔ ¬ IsControl c := by
      intro c
      by_cases hc : c = ' '
      · subst hc
        decide
      · rw [if_neg hc, and_iff_right hc]
    rw [hfragment, List.forall_mem_cons, and_iff_right hhash, List.forall_mem_map,
      ← forall_mem_lower_iff fun c => isCaseless_of_isControl]
    exact forall₂_congr fun c _ => hhyphen c
  have hparentheses : parentheses false ("#" ++ anchor category).toList =
      parentheses false category.toList := by
    have hhash : ∀ l, parentheses false ('#' :: l) = parentheses false l := by simp [parentheses]
    rw [hfragment, hhash, parentheses_map_hyphen,
      parentheses_eq_of_recased (recased_lower category)]
  rw [← hparentheses]
  constructor
  · exact fun h => ⟨hclean.mp h.clean, h.balanced⟩
  · rintro ⟨hc, hb⟩
    refine ⟨fun he => ?_, hclean.mpr hc, ?_, hb⟩
    · rw [he] at hfragment
      cases hfragment
    · rw [hfragment]
      simp

end Bare

section Lists

/-- The links of the index page and of the table of contents, and which of them lead to destinations
that need no angle brackets. -/
structure Directs (options : Options) (docs : DocSet) : Prop where
  index_text : render (index options docs) =
    indexText options.title docs.size
      (docs.byCategory.keys.map fun c => (c, (docs.inCategory c).length))
      ((groups docs).keys.map fun g => (g, (docs.inGroup g).length))
  pages_eq : listUnder (.heading 2 "Documentation Pages") (index options docs) =
    .item (link "Components Documentation" componentsFile ++
        " - Detailed documentation for all components") ::
      (groups docs).keys.map fun g => .item (link (g ++ " Components") (groupFile g) ++ " - " ++
        scriptCount (docs.inGroup g).length)
  components_bare : IsBare componentsFile
  page_bare_iff : ∀ g ∈ (groups docs).keys, IsBare (groupFile g) ↔
    (∀ c ∈ g.toList, c ≠ ' ' ∧ ¬ IsControl c) ∧ g.toList.head? ≠ some '<' ∧
      Balanced (parentheses false g.toList)
  components_text : render (components docs) =
    componentsText (docs.byCategory.keys.map fun c => (c, docs.inCategory c))
  contents_eq : listUnder (.heading 2 "Table of Contents") (components docs) =
    docs.byCategory.keys.map fun c => .item (link c ("#" ++ anchor c))
  fragment_bare_iff : ∀ c ∈ docs.byCategory.keys, IsBare ("#" ++ anchor c) ↔
    (∀ d ∈ c.toList, ¬ IsControl d) ∧ Balanced (parentheses false c.toList)

theorem directs (options : Options) (docs : DocSet) : Directs options docs where
  index_text := render_index options docs
  pages_eq := listUnder_pages options docs
  components_bare := ⟨by decide, List.all_iff_forall_prop.mp (by decide), by decide, by decide⟩
  page_bare_iff _ _ := isBare_groupFile_iff
  components_text := render_components docs
  contents_eq := listUnder_components docs
  fragment_bare_iff _ _ := isBare_fragment_iff

/-- All scripts have fields that were read, and paths of file names between slashes. -/
def IsRead (docs : DocSet) : Prop := ∀ s ∈ docs.entries,
  (∃ trail, trail ≠ [] ∧ (∀ name ∈ trail, Files.IsName name) ∧ s.1 = trailKey trail) ∧
    ∃ text, Block.read? text = some s.2

def spacedDocs : DocSet := OrderedMap.ofList [
  ("my tools/a.sh", OrderedMap.ofList [("category", "1) Tools")])]

theorem isRead_spacedDocs : IsRead spacedDocs := by
  have hpath : trailKey ["my tools", "a.sh"] = "my tools/a.sh" := by decide
  have hread : Block.read? "# @doc\n# @category: 1) Tools\n# @/doc\n" =
      some (OrderedMap.ofList [("category", "1) Tools")]) := by decide
  intro s hs
  obtain rfl := List.mem_singleton.mp hs
  exact ⟨⟨_, by decide, by decide, hpath.symm⟩, _, hread⟩

/-- Names are written as they are, so a destination may hold a space or a lone parenthesis. -/
theorem not_forall_isBare :
    (¬ ∀ docs, IsRead docs → ∀ g ∈ (groups docs).keys, IsBare (groupFile g)) ∧
      ¬ ∀ docs, IsRead docs → ∀ c ∈ docs.byCategory.keys, IsBare ("#" ++ anchor c) := by
  constructor
  · intro h
    have hbare := h spacedDocs isRead_spacedDocs "my tools" (by decide)
    have hspace := (isBare_groupFile_iff.mp hbare).1 ' ' (by decide)
    exact hspace.1 rfl
  · intro h
    have hbare := h spacedDocs isRead_spacedDocs "1) Tools" (by decide)
    have hbalanced := (isBare_fragment_iff.mp hbare).2
    revert hbalanced
    decide

end Lists

end ShellDocs.Page
