import Mathlib.Data.Bool.AllAny
import Mathlib.Data.List.Basic
import ShellDocs.Preview.Html
import ShellDocs.Proofs.Text.Occurrence

/-! # Escaped titles

Replacing one character after the other comes to one map of characters, since no reference holds a
character whose turn comes later. What is escaped holds no markup and is read back as it was, so the
title of a page ends where the page ends it.
-/

namespace ShellDocs.Preview

variable {s : String}

section OnePass

def escapeHtmlChar : Char → List Char
  | '&' => "&amp;".toList
  | '<' => "&lt;".toList
  | '>' => "&gt;".toList
  | '"' => "&quot;".toList
  | c => [c]

def referenced : List Char := ['&', '<', '>', '"']

theorem escapeHtmlChar_of_not_mem {c : Char} (h : c ∉ referenced) : escapeHtmlChar c = [c] := by
  unfold escapeHtmlChar
  split <;> first | rfl | exact absurd (by decide) h

@[simp] theorem toList_replaceChar (c : Char) (replacement s : String) :
    (replaceChar c replacement s).toList =
      s.toList.flatMap fun d => if d = c then replacement.toList else [d] :=
  String.toList_ofList

theorem toList_escapeHtml (s : String) :
    (escapeHtml s).toList = s.toList.flatMap escapeHtmlChar := by
  simp only [escapeHtml, toList_replaceChar, List.flatMap_assoc]
  refine congrArg (s.toList.flatMap ·) (funext fun c => ?_)
  by_cases hc : c ∈ referenced
  · revert c
    exact List.all_iff_forall_prop.mp (by decide)
  · rw [escapeHtmlChar_of_not_mem hc]
    simp only [referenced, List.mem_cons, List.not_mem_nil, or_false, not_or] at hc
    obtain ⟨hand, hless, hgreater, hquote⟩ := hc
    rw [if_neg hand, List.flatMap_singleton, if_neg hless, List.flatMap_singleton,
      if_neg hgreater, List.flatMap_singleton, if_neg hquote]

theorem escapeHtml_append (s t : String) : escapeHtml (s ++ t) = escapeHtml s ++ escapeHtml t := by
  apply String.toList_injective
  simp only [toList_escapeHtml, String.toList_append, List.flatMap_append]

end OnePass

section Markup

theorem mem_escapeHtmlChar {c d : Char} (h : d ∈ escapeHtmlChar c) :
    d ≠ '<' ∧ d ≠ '>' ∧ d ≠ '"' := by
  by_cases hc : c ∈ referenced
  · have hall : ∀ d ∈ referenced.flatMap escapeHtmlChar, d ≠ '<' ∧ d ≠ '>' ∧ d ≠ '"' :=
      List.all_iff_forall_prop.mp (by decide)
    exact hall d (List.mem_flatMap.mpr ⟨c, hc, h⟩)
  · rw [escapeHtmlChar_of_not_mem hc, List.mem_singleton] at h
    subst h
    simp only [referenced, List.mem_cons, List.not_mem_nil, or_false, not_or] at hc
    exact hc.2

theorem mem_escapeHtml {c : Char} (h : c ∈ (escapeHtml s).toList) :
    c ≠ '<' ∧ c ≠ '>' ∧ c ≠ '"' := by
  rw [toList_escapeHtml] at h
  obtain ⟨d, -, hd⟩ := List.mem_flatMap.mp h
  exact mem_escapeHtmlChar hd

/-- An ampersand stands for nothing by itself. It comes from a character with a reference, and is
the first of this reference. -/
theorem eq_nil_of_ampersand {c : Char} {front back : List Char}
    (h : escapeHtmlChar c = front ++ '&' :: back) : c ∈ referenced ∧ front = [] := by
  have hc : c ∈ referenced := by
    by_contra hc
    rw [escapeHtmlChar_of_not_mem hc] at h
    have hmem : '&' ∈ [c] := h ▸ by simp
    exact hc (List.mem_singleton.mp hmem ▸ by decide)
  have hall : ∀ c ∈ referenced, '&' ∉ (escapeHtmlChar c).tail :=
    List.all_iff_forall_prop.mp (by decide)
  refine ⟨hc, ?_⟩
  cases front with
  | nil => rfl
  | cons d front => exact absurd (by simp [h]) (hall c hc)

theorem exists_reference {l front rest : List Char}
    (h : l.flatMap escapeHtmlChar = front ++ '&' :: rest) :
    ∃ c ∈ referenced, escapeHtmlChar c <+: '&' :: rest := by
  induction l generalizing front with
  | nil => simp at h
  | cons c l ih =>
    rw [List.flatMap_cons] at h
    rcases List.append_eq_append_iff.mp h with ⟨front', -, hl⟩ | ⟨back, hc, hback⟩
    · exact ih hl
    · cases back with
      | nil =>
        have hl : l.flatMap escapeHtmlChar = [] ++ '&' :: rest := hback.symm
        exact ih hl
      | cons d back =>
        obtain ⟨rfl, hrest⟩ := List.cons.inj hback
        obtain ⟨hr, rfl⟩ := eq_nil_of_ampersand hc
        exact ⟨c, hr, hc ▸ hback ▸ List.prefix_append _ _⟩

end Markup

section Unescape

/-- Reads each reference as the character for which it stands. -/
def unescapeHtml : List Char → List Char
  | '&' :: 'a' :: 'm' :: 'p' :: ';' :: rest => '&' :: unescapeHtml rest
  | '&' :: 'l' :: 't' :: ';' :: rest => '<' :: unescapeHtml rest
  | '&' :: 'g' :: 't' :: ';' :: rest => '>' :: unescapeHtml rest
  | '&' :: 'q' :: 'u' :: 'o' :: 't' :: ';' :: rest => '"' :: unescapeHtml rest
  | c :: rest => c :: unescapeHtml rest
  | [] => []

theorem unescapeHtml_cons {c : Char} (h : c ≠ '&') (rest : List Char) :
    unescapeHtml (c :: rest) = c :: unescapeHtml rest := by
  rw [unescapeHtml.eq_def]
  split <;> simp_all

theorem unescapeHtml_append (c : Char) (rest : List Char) :
    unescapeHtml (escapeHtmlChar c ++ rest) = c :: unescapeHtml rest := by
  by_cases hc : c ∈ referenced
  · simp only [referenced, List.mem_cons, List.not_mem_nil, or_false] at hc
    rcases hc with rfl | rfl | rfl | rfl <;> rfl
  · rw [escapeHtmlChar_of_not_mem hc]
    refine unescapeHtml_cons ?_ rest
    rintro rfl
    exact hc (by decide)

theorem unescapeHtml_escapeHtml (s : String) : unescapeHtml (escapeHtml s).toList = s.toList := by
  rw [toList_escapeHtml]
  induction s.toList with
  | nil => rfl
  | cons c l ih => rw [List.flatMap_cons, unescapeHtml_append, ih]

theorem escapeHtml_injective : Function.Injective escapeHtml := by
  intro s t h
  apply String.toList_injective
  rw [← unescapeHtml_escapeHtml s, h, unescapeHtml_escapeHtml t]

end Unescape

section Title

variable {title markdown : String}

def titleStart : List Char := "<title>".toList

def titleEnd : List Char := "</title>".toList

/-- The text of the first title element of a page. -/
def titleText? (page : String) : Option (List Char) :=
  (Text.following titleStart page.toList).head?.bind (Text.before? titleEnd)

theorem exists_pageHead_eq : ∃ start, pageHead.toList = start ++ titleStart ∧
    Text.Avoids start titleStart ∧ Text.Avoids pageHead.toList titleEnd :=
  ⟨pageHead.toList.take 134, by decide +kernel⟩

theorem escapeHtml_avoids (s : String) : Text.Avoids (escapeHtml s).toList titleEnd :=
  Text.avoids_of_not_mem fun h => (mem_escapeHtml h).1 rfl

theorem exists_renderPage_eq (title markdown : String) :
    ∃ back, (renderPage title markdown).toList =
      pageHead.toList ++ ((escapeHtml title).toList ++ (titleEnd ++ back)) := by
  have hsplit : "</title>\n<style>\n".toList = titleEnd ++ "\n<style>\n".toList := by decide
  refine ⟨"\n<style>\n".toList ++ (style ++ pageNavigation ++ pageBody markdown ++
    "\n</body>\n</html>\n").toList, ?_⟩
  simp only [renderPage, String.toList_append, hsplit, List.append_assoc]

theorem length_le_of_titleEnd {front back : List Char}
    (h : (renderPage title markdown).toList = front ++ titleEnd ++ back) :
    (pageHead ++ escapeHtml title).toList.length ≤ front.length := by
  obtain ⟨-, -, -, havoids⟩ := exists_pageHead_eq
  obtain ⟨rest, hpage⟩ := exists_renderPage_eq title markdown
  rw [hpage, ← List.append_assoc] at h
  rw [String.toList_append]
  exact (havoids.append (escapeHtml_avoids title)).length_le h

theorem titleText?_renderPage (title markdown : String) :
    titleText? (renderPage title markdown) = some (escapeHtml title).toList := by
  obtain ⟨start, hstart, havoids, -⟩ := exists_pageHead_eq
  obtain ⟨back, hpage⟩ := exists_renderPage_eq title markdown
  have hfollowing : (Text.following titleStart (renderPage title markdown).toList).head? =
      some ((escapeHtml title).toList ++ (titleEnd ++ back)) := by
    rw [hpage, hstart, List.append_assoc, havoids.following_append]
    exact Text.head?_following_mark (by decide) _
  rw [titleText?, hfollowing, Option.bind_some, (escapeHtml_avoids title).before?_append,
    Text.before?_mark, Option.map_some, List.append_nil]

end Title

/-- What escaping does to a text, also as the title of a page. -/
structure Escapes (s : String) : Prop where
  one_pass : (escapeHtml s).toList = s.toList.flatMap escapeHtmlChar
  no_markup : ∀ c ∈ (escapeHtml s).toList, c ≠ '<' ∧ c ≠ '>' ∧ c ≠ '"'
  /-- Every ampersand begins a reference. -/
  reference (front rest : List Char) : (escapeHtml s).toList = front ++ '&' :: rest →
    ∃ c ∈ ['&', '<', '>', '"'], escapeHtmlChar c <+: '&' :: rest
  unescaped : unescapeHtml (escapeHtml s).toList = s.toList
  injective (t : String) : escapeHtml s = escapeHtml t → s = t
  append (t : String) : escapeHtml (s ++ t) = escapeHtml s ++ escapeHtml t
  /-- The first end tag of a title is the one that the page writes after its title. -/
  title_end (markdown : String) :
    (∃ back, (renderPage s markdown).toList =
      (pageHead ++ escapeHtml s).toList ++ titleEnd ++ back) ∧
    ∀ front back, (renderPage s markdown).toList = front ++ titleEnd ++ back →
      (pageHead ++ escapeHtml s).toList.length ≤ front.length
  title_text (markdown : String) :
    (titleText? (renderPage s markdown)).map unescapeHtml = some s.toList

theorem escapes (s : String) : Escapes s where
  one_pass := toList_escapeHtml s
  no_markup _ h := mem_escapeHtml h
  reference _ _ h := exists_reference (toList_escapeHtml s ▸ h)
  unescaped := unescapeHtml_escapeHtml s
  injective _ h := escapeHtml_injective h
  append t := escapeHtml_append s t
  title_end markdown := by
    obtain ⟨back, hpage⟩ := exists_renderPage_eq s markdown
    refine ⟨⟨back, ?_⟩, fun front back => length_le_of_titleEnd⟩
    rw [hpage, String.toList_append, List.append_assoc, List.append_assoc]
  title_text markdown := by
    rw [titleText?_renderPage, Option.map_some, unescapeHtml_escapeHtml]

end ShellDocs.Preview
