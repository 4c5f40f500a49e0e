import Mathlib.Data.Bool.AllAny
import ShellDocs.Page.Group
import ShellDocs.Proofs.Scan.Trail
import ShellDocs.Proofs.Shell.Reader
import ShellDocs.Proofs.Text.Trim
import ShellDocs.Text.Word

/-! # What an install command does

The address of a script is written without quotes, so the command downloads what it names just if
nothing in the path is special to the shell.
-/

namespace ShellDocs.Page

open Shell

section Trimming

variable (text : String)

theorem toList_trimSlashesEnd :
    (trimSlashesEnd text).toList = text.toList.rdropWhile (· = '/') := String.toList_ofList

theorem exists_eq_trimSlashesEnd_append :
    ∃ n, text.toList = (trimSlashesEnd text).toList ++ List.replicate n '/' := by
  rw [toList_trimSlashesEnd]
  exact Text.exists_eq_rdropWhile_append_replicate _ _

theorem getLast?_trimSlashesEnd : (trimSlashesEnd text).toList.getLast? ≠ some '/' := by
  intro h
  rw [toList_trimSlashesEnd] at h
  obtain ⟨hne, hlast⟩ := List.mem_getLast?_eq_getLast h
  have hkept := List.rdropWhile_last_not _ _ hne
  rw [← hlast] at hkept
  exact hkept (by decide)

end Trimming

section Commands

variable {url command : String}

/-- The shell is called with the output of a download. -/
def download (url : String) : List Word :=
  [word "/bin/bash", word "-c", [.double [.output [word "curl", word "-fsSL", word url]]]]

/-- A command downloads what is at the address, which stands for itself, and runs it. -/
structure Fetches (command url : String) : Prop where
  read : read? command = some (download url)
  fixed : isPattern url.toList = false

theorem run_opening : "/bin/bash -c \"$(curl -fsSL ".toList.foldlM State.step start =
    some ⟨.ready, .command [word "curl", word "-fsSL"] none,
      [.double [], .command [word "/bin/bash", word "-c"] none]⟩ := rfl

theorem run_closing : ")\"".toList.foldlM State.step
      ⟨.ready, .command [word "curl", word "-fsSL"] (some (word url)),
        [.double [], .command [word "/bin/bash", word "-c"] none]⟩ =
    some ⟨.ready, .command [word "/bin/bash", word "-c"]
      (some [.double [.output [word "curl", word "-fsSL", word url]]]), []⟩ := rfl

theorem read?_eq_some_download (hurl : ∀ c ∈ url.toList, c ∉ special) (hne : url.toList ≠ [])
    (hhead : ∀ c ∈ url.toList.head?, c ≠ '#' ∧ c ≠ '~') :
    read? ("/bin/bash -c \"$(curl -fsSL " ++ url ++ ")\"") = some (download url) := by
  rw [read?, String.toList_append, String.toList_append, List.foldlM_append, List.foldlM_append,
    run_opening, Option.bind_eq_bind, Option.bind_some, run_word hurl hne hhead, Option.bind_some,
    run_closing]
  rfl

theorem forall_not_mem_special_of_read? (h : read? command = some (download url)) :
    ∀ c ∈ url.toList, c ∉ special := by
  have hvalid := valid_of_read?_eq_some h
  have hdouble : Word.Valid [.double [.output [word "curl", word "-fsSL", word url]]] :=
    hvalid _ (by simp [download])
  rcases hdouble _ (List.mem_singleton_self _) with _ | _ | houtput
  rcases houtput _ (List.mem_singleton_self _) with _ | _ | _ | hwords
  exact valid_word_iff.mp (hwords (word url) (by simp))

end Commands

section Addresses

variable {options : Options} {path : String} {c : Char}

/-- The characters of a base of addresses: letters, digits, underscores, and a few more. -/
def IsBaseChar (c : Char) : Prop := Text.isWord c ∨ c ∈ [':', '/', '.', '-']

instance (c : Char) : Decidable (IsBaseChar c) := by unfold IsBaseChar; infer_instance

theorem not_mem_of_isBaseChar (hc : IsBaseChar c) :
    c ∉ special ++ ['*', '?', '[', '#', '~'] := by
  have hsigns : ∀ d ∈ special ++ ['*', '?', '[', '#', '~'], ¬ IsBaseChar d :=
    List.all_iff_forall_prop.mp (by decide)
  exact fun hm => hsigns c hm hc

theorem isBaseChar_default : ∀ c ∈ ({} : Options).installBase.toList, IsBaseChar c :=
  List.all_iff_forall_prop.mp (by decide)

def address (options : Options) (path : String) : String :=
  trimSlashesEnd options.installBase ++ "/" ++ path

theorem installCommand_eq : installCommand options path =
    "/bin/bash -c \"$(curl -fsSL " ++ address options path ++ ")\"" := by
  have hassoc : ∀ opening base closing : String,
      opening ++ base ++ "/" ++ path ++ closing = opening ++ (base ++ "/" ++ path) ++ closing := by
    intro opening base closing
    simp only [String.append_assoc]
  exact hassoc _ _ _

theorem exists_toList_address (path : String)
    (hbase : ∀ c ∈ options.installBase.toList, IsBaseChar c) :
    ∃ front, front ≠ [] ∧ (∀ c ∈ front, c ∉ special) ∧
      (∀ c ∈ front, c ∉ ['*', '?', '[', '#', '~']) ∧
        (address options path).toList = front ++ path.toList := by
  obtain ⟨n, hn⟩ := exists_eq_trimSlashesEnd_append options.installBase
  rw [hn, List.forall_mem_append] at hbase
  have hslash : "/".toList = ['/'] := by decide
  have hfront : ∀ c ∈ (trimSlashesEnd options.installBase).toList ++ ['/'], IsBaseChar c :=
    List.forall_mem_append.mpr ⟨hbase.1, List.forall_mem_singleton.mpr (by decide)⟩
  refine ⟨(trimSlashesEnd options.installBase).toList ++ ['/'], List.concat_ne_nil _ _,
    fun c hc hm => ?_, fun c hc hm => ?_, ?_⟩
  · exact not_mem_of_isBaseChar (hfront c hc) (List.mem_append_left _ hm)
  · exact not_mem_of_isBaseChar (hfront c hc) (List.mem_append_right _ hm)
  · rw [address, String.toList_append, String.toList_append, hslash]

theorem fetches_installCommand_iff (hbase : ∀ c ∈ options.installBase.toList, IsBaseChar c) :
    Fetches (installCommand options path) (address options path) ↔
      (∀ c ∈ path.toList, c ∉ special) ∧ isPattern path.toList = false := by
  obtain ⟨front, hne, hspecial, hsigns, haddress⟩ := exists_toList_address path hbase
  have hpattern : isPattern (address options path).toList = isPattern path.toList := by
    rw [haddress]
    exact isPattern_append_of_forall_not_mem fun c hc hm =>
      hsigns c hc (List.mem_append_left ['#', '~'] hm)
  have hchars : (∀ c ∈ (address options path).toList, c ∉ special) ↔
      ∀ c ∈ path.toList, c ∉ special := by
    rw [haddress, List.forall_mem_append, and_iff_right hspecial]
  constructor
  · rintro ⟨hread, hfixed⟩
    exact ⟨hchars.mp (forall_not_mem_special_of_read? hread), hpattern.symm.trans hfixed⟩
  · rintro ⟨hpath, hfixed⟩
    have hhead : ∀ c ∈ (address options path).toList.head?, c ≠ '#' ∧ c ≠ '~' := by
      intro c hc
      rw [haddress, List.head?_append_of_ne_nil _ hne] at hc
      have hc := hsigns c (List.mem_of_mem_head? hc)
      simp only [List.mem_cons, not_or] at hc
      exact ⟨hc.2.2.2.1, hc.2.2.2.2.1⟩
    have haddress_ne : (address options path).toList ≠ [] := by
      rw [haddress]
      exact List.append_ne_nil_of_left_ne_nil hne _
    refine ⟨?_, hpattern.trans hfixed⟩
    rw [installCommand_eq]
    exact read?_eq_some_download (hchars.mpr hpath) haddress_ne hhead

/-- What the install command for the script at `path` does. -/
structure Installs (options : Options) (path : String) : Prop where
  base_eq : ∃ n, options.installBase.toList =
    (trimSlashesEnd options.installBase).toList ++ List.replicate n '/'
  base_end : (trimSlashesEnd options.installBase).toList.getLast? ≠ some '/'
  fetches_iff : Fetches (installCommand options path) (address options path) ↔
    (∀ c ∈ path.toList, c ∉ special) ∧ isPattern path.toList = false

theorem installs (hbase : ∀ c ∈ options.installBase.toList, IsBaseChar c) :
    Installs options path where
  base_eq := exists_eq_trimSlashesEnd_append _
  base_end := getLast?_trimSlashesEnd _
  fetches_iff := fetches_installCommand_iff hbase

theorem installs_default :
    (∀ c ∈ ({} : Options).installBase.toList, IsBaseChar c) ∧ Installs {} "Python/install.sh" :=
  ⟨isBaseChar_default, installs isBaseChar_default⟩

/-- A space in the name of a file ends the address. -/
theorem not_forall_fetches : ¬ ∀ (options : Options) (trail : List String),
    (∀ c ∈ options.installBase.toList, IsBaseChar c) → trail ≠ [] →
      (∀ name ∈ trail, Files.IsName name) →
        Fetches (installCommand options (trailKey trail)) (address options (trailKey trail)) := by
  intro h
  have hfetches := h {} ["a b.sh"] isBaseChar_default (by decide) (by decide)
  have hspace : ' ' ∈ (address {} (trailKey ["a b.sh"])).toList := by decide
  exact forall_not_mem_special_of_read? hfetches.read ' ' hspace (by decide)

end Addresses

end ShellDocs.Page
