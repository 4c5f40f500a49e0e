import Mathlib.Data.List.Basic
import ShellDocs.Preview.HeadingId

/-! # Headings and their identifiers

Of all the events of a page only the headings without an identifier change, each by the text that
follows it. A heading that has its identifier keeps it, so a second pass changes nothing, and the
pass may as well visit the events in place.
-/

namespace ShellDocs.Preview

open Markdown

theorem withHeadingIds_cons (e : Event) (rest : List Event) :
    withHeadingIds (e :: rest) = identify rest e :: withHeadingIds rest := rfl

def IsUnnamed (e : Event) : Prop :=
  ∃ level classes attributes, e = .start (.heading level none classes attributes)

theorem identify_of_not_isUnnamed {e : Event} (h : ¬ IsUnnamed e) (rest : List Event) :
    identify rest e = e := by
  unfold identify
  split
  · exact absurd ⟨_, _, _, rfl⟩ h
  · rfl

theorem not_isUnnamed_identify (rest : List Event) (e : Event) : ¬ IsUnnamed (identify rest e) := by
  rintro ⟨level, classes, attributes, h⟩
  unfold identify at h
  split at h
  · cases h
  · rename_i hne
    exact hne level classes attributes h

theorem length_withHeadingIds (events : List Event) :
    (withHeadingIds events).length = events.length := by
  induction events with
  | nil => rfl
  | cons e rest ih => rw [withHeadingIds_cons, List.length_cons, List.length_cons, ih]

theorem getElem?_withHeadingIds (events : List Event) (i : Nat) :
    (withHeadingIds events)[i]? = events[i]?.map (identify (events.drop (i + 1))) := by
  induction events generalizing i with
  | nil => rfl
  | cons e rest ih =>
    rw [withHeadingIds_cons]
    cases i with
    | zero => rfl
    | succ i => simpa using ih i

theorem withHeadingIds_withHeadingIds (events : List Event) :
    withHeadingIds (withHeadingIds events) = withHeadingIds events := by
  induction events with
  | nil => rfl
  | cons e rest ih =>
    rw [withHeadingIds_cons, withHeadingIds_cons, ih,
      identify_of_not_isUnnamed (not_isUnnamed_identify rest e)]

section InPlace

/-- Visits one position of the list and reads ahead in the list as it is at the time. -/
def identifyAt (events : List Event) (i : Nat) : List Event :=
  events.modify i (identify (events.drop (i + 1)))

theorem identifyAt_append (front rest : List Event) (e : Event) :
    identifyAt (front ++ e :: rest) front.length = front ++ identify rest e :: rest := by
  have hdrop : (front ++ e :: rest).drop (front.length + 1) = rest := by simp
  rw [identifyAt, hdrop, List.modify]
  exact List.modifyTailIdx_add _ 0 front _

/-- Nothing behind a position has changed when the position is visited. -/
theorem foldl_identifyAt (front rest : List Event) :
    (List.range' front.length rest.length).foldl identifyAt (front ++ rest) =
      front ++ withHeadingIds rest := by
  induction rest generalizing front with
  | nil => rfl
  | cons e rest ih =>
    have hnext := ih (front ++ [identify rest e])
    rw [List.length_append, List.length_singleton, List.append_assoc, List.append_assoc] at hnext
    rw [List.length_cons, List.range'_succ, List.foldl_cons, identifyAt_append]
    exact hnext

end InPlace

theorem headingText_append {inner rest : List Event} (hi : ∀ e ∈ inner, isHeadingStop e = false)
    (hr : ∀ e ∈ rest.head?, isHeadingStop e = true) :
    headingText (inner ++ rest) = String.join (inner.filterMap textOf?) := by
  have hstop : rest.takeWhile (!isHeadingStop ·) = [] := by
    cases rest with
    | nil => rfl
    | cons e rest => exact List.takeWhile_cons_of_neg (by simp [hr e rfl])
  rw [headingText, List.takeWhile_append_of_pos (by simpa using hi), hstop, List.append_nil]

/-- What the pass that names the headings of a page does. -/
structure NamesHeadings (events : List Event) : Prop where
  /-- The positions are visited in their order, and each changes the list at once. -/
  in_place : (List.range events.length).foldl identifyAt events = withHeadingIds events
  length_eq : (withHeadingIds events).length = events.length
  unchanged (i : Nat) (e : Event) : events[i]? = some e → ¬ IsUnnamed e →
    (withHeadingIds events)[i]? = some e
  named (i level : Nat) (classes : List String) (attributes : List (String × Option String)) :
    events[i]? = some (.start (.heading level none classes attributes)) →
      (withHeadingIds events)[i]? = some (.start (.heading level
        (some (Page.anchor (String.join
          (((events.drop (i + 1)).takeWhile (!isHeadingStop ·)).filterMap textOf?))))
        classes attributes))
  again : withHeadingIds (withHeadingIds events) = withHeadingIds events
  /-- A heading is where the link with its text leads, however the text is cut into events. -/
  linked (front inner rest : List Event) (level : Nat) (classes : List String)
      (attributes : List (String × Option String)) (text : String) :
    events = front ++ .start (.heading level none classes attributes) :: (inner ++ rest) →
    (∀ e ∈ inner, isHeadingStop e = false) → (∀ e ∈ rest.head?, isHeadingStop e = true) →
    String.join (inner.filterMap textOf?) = text →
      ∃ id, (withHeadingIds events)[front.length]? =
          some (.start (.heading level (some id) classes attributes)) ∧
        Page.headingLink text = Page.link text ("#" ++ id)

end ShellDocs.Preview
