import Mathlib.Algebra.Order.Group.Nat
import Mathlib.Algebra.BigOperators.Group.List.Basic
import ShellDocs.Page.Part

/-! # Chapters of a page

The headings of one level cut a page into chapters. A page that is written chapter by chapter
is cut where one chapter ends and the next begins.
-/

namespace ShellDocs.Page

universe u

/-- A heading that ends the chapters of a level: one of this level or above. -/
def Part.ends (level : Nat) : Part → Bool
  | .heading n _ => n ≤ level
  | _ => false

/-- The headings of a level, each with the parts up to where its chapter ends. -/
def chapters (level : Nat) : List Part → List (String × List Part)
  | [] => []
  | .heading n text :: rest =>
    if n = level then (text, rest.takeWhile (fun p => !p.ends level)) :: chapters level rest
    else chapters level rest
  | _ :: rest => chapters level rest

variable {level : Nat} {front body rest : List Part}

theorem chapters_append (h : ∀ text, .heading level text ∉ front) (rest : List Part) :
    chapters level (front ++ rest) = chapters level rest := by
  induction front with
  | nil => rfl
  | cons p front ih =>
    have hfront : ∀ text, .heading level text ∉ front :=
      fun text hm => h text (List.mem_cons_of_mem p hm)
    cases p with
    | heading n text =>
      have hn : n ≠ level := fun he => h text (he ▸ List.mem_cons_self)
      rw [List.cons_append, chapters, if_neg hn, ih hfront]
    | _ => exact ih hfront

theorem heading_not_mem (hb : ∀ p ∈ body, p.ends level = false) (text : String) :
    .heading level text ∉ body := by
  intro hm
  have := hb _ hm
  simp [Part.ends] at this

theorem chapters_heading (hb : ∀ p ∈ body, p.ends level = false)
    (hr : ∀ p ∈ rest.head?, p.ends level = true) (text : String) :
    chapters level (.heading level text :: (body ++ rest)) =
      (text, body) :: chapters level rest := by
  have htake : (body ++ rest).takeWhile (fun p => !p.ends level) = body := by
    rw [List.takeWhile_append_of_pos fun p hp => by simp [hb p hp]]
    cases rest with
    | nil => simp
    | cons p rest => simp [hr p rfl]
  rw [chapters, if_pos rfl, htake, chapters_append (heading_not_mem hb)]

theorem chapters_flatMap {α : Type u} (title : α → String) (contents : α → List Part)
    (h : ∀ a, ∀ p ∈ contents a, p.ends level = false) (l : List α) :
    chapters level (l.flatMap fun a => .heading level (title a) :: contents a) =
      l.map fun a => (title a, contents a) := by
  induction l with
  | nil => rfl
  | cons a l ih =>
    rw [List.flatMap_cons, List.map_cons, List.cons_append, chapters_heading (h a) ?_, ih]
    cases l with
    | nil => simp
    | cons b l => simp [Part.ends]

end ShellDocs.Page
