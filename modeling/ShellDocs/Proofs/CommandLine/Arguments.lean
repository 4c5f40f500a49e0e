import Mathlib.Data.List.Basic
import Mathlib.Data.List.Nodup
import Mathlib.Data.List.TakeWhile
import ShellDocs.CommandLine.Arguments
import ShellDocs.Proofs.Attempt

/-! # The grammar of arguments

The arguments that a program accepts are those that spell flags, each at most once and each with a
value of its kind. What is read from them are these flags with these values, in their order.
-/

namespace ShellDocs.CommandLine

universe u v

def Flag.Takes (f : Flag) (value : String) : Prop := ∃ kind, f.value = some kind ∧ kind.allows value

def Given.Once (g : Given) : Prop := (g.map (·.1)).Nodup

/-- The names of a program tell its flags apart. -/
structure Program.Distinct (p : Program) : Prop where
  long_nodup : (p.allFlags.map (·.long)).Nodup
  short_nodup : (p.allFlags.map (·.short)).Nodup
  long_ne : ∀ f ∈ p.allFlags, f.long ≠ "" ∧ '=' ∉ f.long.toList
  short_ne : ∀ f ∈ p.allFlags, f.short ≠ '-'

/-- What stands after one hyphen: short names of switches, and then perhaps that of a flag with a
value, which stands right there, with or without an equals sign before it, or is waited for. -/
inductive Letters (p : Program) : List Char → Option Flag → Given → Prop
  | nil : Letters p [] none []
  | switch {f : Flag} {l : List Char} {w : Option Flag} {g : Given} (hf : f ∈ p.flags)
    (hn : f.value = none) (h : Letters p l w g) : Letters p (f.short :: l) w ((f.long, "") :: g)
  | waits {f : Flag} (hf : f ∈ p.flags) (hv : f.value ≠ none) : Letters p [f.short] (some f) []
  | equals {f : Flag} {value : String} (hf : f ∈ p.flags) (hv : f.Takes value) :
    Letters p (f.short :: '=' :: value.toList) none [(f.long, value)]
  | joined {f : Flag} {value : String} (hf : f ∈ p.flags) (hv : f.Takes value)
    (he : value.toList.head? ≠ some '=') :
    Letters p (f.short :: value.toList) none [(f.long, value)]

/-- What one argument spells, and the flag whose value is in the next one. -/
inductive Word (p : Program) : String → Option Flag → Given → Prop
  | switch {f : Flag} (hf : f ∈ p.flags) (hn : f.value = none) :
    Word p ("--" ++ f.long) none [(f.long, "")]
  | waits {f : Flag} (hf : f ∈ p.flags) (hv : f.value ≠ none) : Word p ("--" ++ f.long) (some f) []
  | equals {f : Flag} {value : String} (hf : f ∈ p.flags) (hv : f.Takes value) :
    Word p ("--" ++ f.long ++ "=" ++ value) none [(f.long, value)]
  | letters {l : List Char} {w : Option Flag} {g : Given} (hl : Letters p l w g) (hne : l ≠ []) :
    Word p (String.ofList ('-' :: l)) w g

/-- The arguments spell the flags, after an argument that ended with a flag whose value is to come
if there is one. -/
inductive Spells (p : Program) : Option Flag → List String → Given → Prop
  | nil : Spells p none [] []
  | ended : Spells p none ["--"] []
  | word {arg : String} {args : List String} {w : Option Flag} {g g' : Given} (hw : Word p arg w g)
    (h : Spells p w args g') : Spells p none (arg :: args) (g ++ g')
  | value {f : Flag} {value : String} {args : List String} {g : Given} (hv : f.Takes value)
    (hh : value = "-" ∨ value.toList.head? ≠ some '-') (h : Spells p none args g) :
    Spells p (some f) (value :: args) ((f.long, value) :: g)

section Names

variable {p : Program} {f : Flag} {value : String}

theorem mem_allFlags_iff : f ∈ p.allFlags ↔ f ∈ p.flags ∨ f = .help := by
  simp [Program.allFlags]

theorem Program.Distinct.ne_help (hp : p.Distinct) (hf : f ∈ p.flags) : f ≠ .help := by
  rintro rfl
  have h := hp.long_nodup
  rw [Program.allFlags, List.map_append, List.nodup_append] at h
  exact h.2.2 _ (List.mem_map_of_mem hf) _ (by simp) rfl

theorem find?_eq_some_of_nodup {α : Type u} {β : Type v} [DecidableEq β] {key : α → β}
    {l : List α} (h : (l.map key).Nodup) {a : α} (ha : a ∈ l) :
    l.find? (fun b => key b = key a) = some a := by
  cases hfind : l.find? (fun b => key b = key a) with
  | none => exact absurd (List.find?_eq_none.mp hfind a ha) (by simp)
  | some b =>
    have hkey : key b = key a := by simpa using List.find?_some hfind
    rw [List.inj_on_of_nodup_map h (List.mem_of_find?_eq_some hfind) ha hkey]

theorem Program.Distinct.find?_long (hp : p.Distinct) (hf : f ∈ p.flags) :
    p.allFlags.find? (fun f' => f'.long = f.long) = some f :=
  find?_eq_some_of_nodup hp.long_nodup (mem_allFlags_iff.mpr (.inl hf))

theorem Program.Distinct.find?_short (hp : p.Distinct) (hf : f ∈ p.flags) :
    p.allFlags.find? (fun f' => f'.short = f.short) = some f :=
  find?_eq_some_of_nodup hp.short_nodup (mem_allFlags_iff.mpr (.inl hf))

theorem Flag.Takes.isSome (h : f.Takes value) : f.value.isSome := by
  obtain ⟨kind, hk, -⟩ := h
  simp [hk]

theorem Flag.Takes.toList_ne_nil (h : f.Takes value) : value.toList ≠ [] := by
  obtain ⟨kind, -, ha⟩ := h
  rw [Ne, String.toList_eq_nil_iff]
  rintro rfl
  cases kind <;> revert ha <;> decide

end Names

section Given

variable {g g' : Given} {name value : String}

theorem Given.has_eq_false_iff : g.has name = false ↔ name ∉ g.map (·.1) := by
  induction g with
  | nil => simp [Given.has, Given.value?]
  | cons entry g ih =>
    obtain ⟨k, v⟩ := entry
    simp only [Given.has, Given.value?] at ih ⊢
    by_cases h : name = k
    · simp [h]
    · rw [List.lookup_cons, beq_eq_false_iff_ne.mpr h, List.map_cons, List.mem_cons, ih]
      simp [h]

theorem Given.once_append_singleton :
    Given.Once (g ++ [(name, value)]) ↔ g.Once ∧ name ∉ g.map (·.1) := by
  simp only [Given.Once, List.map_append, List.map_cons, List.map_nil, List.nodup_append_comm,
    List.singleton_append, List.nodup_cons, and_comm]

theorem Given.Once.of_append (h : Given.Once (g ++ g')) : g.Once := by
  rw [Given.Once, List.map_append] at h
  exact h.of_append_left

end Given

section Spelling

variable {p : Program} {f : Flag} {arg : String} {args : List String} {l : List Char}
  {w : Option Flag} {g : Given}

theorem Letters.ne_hyphen {c : Char} (h : Letters p (c :: l) w g) (hp : p.Distinct) : c ≠ '-' := by
  cases h <;> exact hp.short_ne _ (mem_allFlags_iff.mpr (.inl ‹_›))

theorem Letters.isSome (h : Letters p l (some f) g) : f.value.isSome := by
  generalize hw : some f = w at h
  induction h with
  | switch _ _ _ ih => exact ih hw
  | waits _ hv =>
    cases hw
    exact Option.isSome_iff_ne_none.mpr hv
  | _ => cases hw

theorem Word.isSome (h : Word p arg (some f) g) : f.value.isSome := by
  cases h with
  | waits _ hv => exact Option.isSome_iff_ne_none.mpr hv
  | letters hl _ => exact hl.isSome

/-- The entry is that of a flag of the program: a switch, or a flag with a value of its kind. -/
def Program.Knows (p : Program) (entry : String × String) : Prop :=
  ∃ f ∈ p.flags, f.long = entry.1 ∧ (f.value = none ∧ entry.2 = "" ∨ f.Takes entry.2)

theorem Letters.knows (h : Letters p l w g) :
    (∀ f ∈ w, f ∈ p.flags) ∧ ∀ entry ∈ g, p.Knows entry := by
  induction h with
  | nil => simp
  | switch hf hn _ ih => exact ⟨ih.1, List.forall_mem_cons.mpr ⟨⟨_, hf, rfl, .inl ⟨hn, rfl⟩⟩, ih.2⟩⟩
  | waits hf _ => simpa using hf
  | equals hf hv => simpa using ⟨_, hf, rfl, .inr hv⟩
  | joined hf hv _ => simpa using ⟨_, hf, rfl, .inr hv⟩

theorem Word.knows (h : Word p arg w g) :
    (∀ f ∈ w, f ∈ p.flags) ∧ ∀ entry ∈ g, p.Knows entry := by
  cases h with
  | switch hf hn => simpa using ⟨_, hf, rfl, .inl ⟨hn, rfl⟩⟩
  | waits hf _ => simpa using hf
  | equals hf hv => simpa using ⟨_, hf, rfl, .inr hv⟩
  | letters hl _ => exact hl.knows

theorem Spells.knows (h : Spells p w args g) (hw : ∀ f ∈ w, f ∈ p.flags) :
    ∀ entry ∈ g, p.Knows entry := by
  induction h with
  | nil => simp
  | ended => simp
  | word hword _ ih =>
    exact List.forall_mem_append.mpr ⟨hword.knows.2, ih hword.knows.1⟩
  | value hv _ _ ih =>
    exact List.forall_mem_cons.mpr ⟨⟨_, hw _ rfl, rfl, .inr hv⟩, ih (by simp)⟩

end Spelling

namespace Progress

section Steps

variable {p : Program} {f : Flag} {value arg : String} {name l : List Char} {args : List String}
  {g g' : Given} {w : Option Flag} {s : Progress}

/-- The state after flags that are read, while no two hyphens ended them. -/
def after (g : Given) (w : Option Flag) : Progress := ⟨g, w, false⟩

theorem give_eq_ok_iff (hg : g.Once) : (after g w).give f value = .ok s ↔
    (∀ kind, f.value = some kind → kind.allows value) ∧
      Given.Once (g ++ [(f.long, value)]) ∧ s = after (g ++ [(f.long, value)]) none := by
  unfold give after
  rw [Given.once_append_singleton, ← Given.has_eq_false_iff]
  cases hh : g.has f.long with
  | true => simp
  | false =>
    cases hf : f.value with
    | none => simpa [hg] using eq_comm
    | some kind =>
      cases ha : kind.allows value with
      | false => simp [ha]
      | true => simpa [hg, ha] using eq_comm

theorem give_of_takes (hv : f.Takes value) (hg : Given.Once (g ++ [(f.long, value)])) :
    (after g w).give f value = .ok (after (g ++ [(f.long, value)]) none) := by
  obtain ⟨kind, hk, ha⟩ := hv
  refine (give_eq_ok_iff hg.of_append).mpr ⟨?_, hg, rfl⟩
  intro kind' hk'
  obtain rfl : kind = kind' := Option.some.inj (hk.symm.trans hk')
  exact ha

theorem turnOn_of_once (hp : p.Distinct) (hf : f ∈ p.flags) (hn : f.value = none)
    (hg : Given.Once (g ++ [(f.long, "")])) :
    (after g w).turnOn f = .ok (after (g ++ [(f.long, "")]) none) := by
  rw [turnOn, if_neg (hp.ne_help hf)]
  exact (give_eq_ok_iff hg.of_append).mpr ⟨by simp [hn], hg, rfl⟩

theorem of_turnOn_eq_ok (hg : g.Once) (h : (after g w).turnOn f = .ok s) : f ≠ .help ∧
    Given.Once (g ++ [(f.long, "")]) ∧ s = after (g ++ [(f.long, "")]) none := by
  unfold turnOn at h
  split at h
  · cases h
  · rename_i hne
    exact ⟨hne, ((give_eq_ok_iff hg).mp h).2⟩

theorem takes_of_give (hg : g.Once) (hv : f.value.isSome)
    (h : (after g w).give f value = .ok s) : f.Takes value ∧
      Given.Once (g ++ [(f.long, value)]) ∧ s = after (g ++ [(f.long, value)]) none := by
  obtain ⟨ha, hrest⟩ := (give_eq_ok_iff hg).mp h
  obtain ⟨kind, hk⟩ := Option.isSome_iff_exists.mp hv
  exact ⟨⟨kind, hk, ha kind hk⟩, hrest⟩

theorem attached_equals (value : String) : attached ('=' :: value.toList) = value :=
  String.ofList_toList

theorem attached_of_head?_ne (h : l.head? ≠ some '=') : attached l = String.ofList l := by
  unfold attached
  split
  · exact absurd rfl h
  · rfl

theorem letters_attached (hf : f ∈ p.flags) (hv : f.Takes (attached l)) :
    Letters p (f.short :: l) none [(f.long, attached l)] := by
  cases l with
  | nil => exact absurd rfl hv.toList_ne_nil
  | cons c rest =>
    by_cases hc : c = '='
    · subst hc
      have hl := Letters.equals hf hv
      rwa [attached, String.toList_ofList] at hl
    · rw [attached_of_head?_ne (by simpa using hc)] at hv ⊢
      have hl := Letters.joined hf hv (by simpa using hc)
      rwa [String.toList_ofList] at hl

theorem short_switch (hp : p.Distinct) (hf : f ∈ p.flags) (hn : f.value = none) :
    short p s (f.short :: l) = s.turnOn f >>= fun s => short p s l := by
  rw [short, hp.find?_short hf]
  exact if_pos (Option.isNone_iff_eq_none.mpr hn)

theorem short_value (hp : p.Distinct) (hf : f ∈ p.flags) (hv : f.value.isSome) (hl : l ≠ []) :
    short p s (f.short :: l) = s.give f (attached l) := by
  rw [short, hp.find?_short hf]
  simp [Option.isSome_iff_ne_none.mp hv, hl]

theorem short_waits (hp : p.Distinct) (hf : f ∈ p.flags) (hv : f.value.isSome) :
    short p (after g w) [f.short] = .ok (after g (some f)) := by
  rw [short, hp.find?_short hf]
  simp [Option.isSome_iff_ne_none.mp hv, after]

theorem short_of_letters (hp : p.Distinct) (hl : Letters p l w g') (hg : Given.Once (g ++ g')) :
    short p (after g none) l = .ok (after (g ++ g') w) := by
  induction hl generalizing g with
  | nil => simp [short]
  | switch hf hn h ih =>
    rw [List.append_cons] at hg ⊢
    rw [short_switch hp hf hn, turnOn_of_once hp hf hn hg.of_append]
    exact ih hg
  | waits hf hv =>
    rw [List.append_nil]
    exact short_waits hp hf (Option.isSome_iff_ne_none.mpr hv)
  | equals hf hv =>
    rw [short_value hp hf hv.isSome (List.cons_ne_nil _ _), attached_equals]
    exact give_of_takes hv hg
  | joined hf hv he =>
    rw [short_value hp hf hv.isSome hv.toList_ne_nil, attached_of_head?_ne he,
      String.ofList_toList]
    exact give_of_takes hv hg

theorem letters_of_short (hg : g.Once) (h : short p (after g none) l = .ok s) :
    ∃ w g', Letters p l w g' ∧ Given.Once (g ++ g') ∧ s = after (g ++ g') w := by
  induction l generalizing g with
  | nil =>
    obtain rfl : after g none = s := by simpa [short] using h
    exact ⟨none, [], .nil, by simpa using hg, by simp⟩
  | cons c rest ih =>
    unfold short at h
    split at h
    · cases h
    · rename_i f hfind
      obtain rfl : f.short = c := by simpa using List.find?_some hfind
      have hmem := mem_allFlags_iff.mp (List.mem_of_find?_eq_some hfind)
      split at h
      · rename_i hn
        obtain ⟨s', hs', h⟩ := bind_eq_ok_iff.mp h
        obtain ⟨hne, hg', rfl⟩ := of_turnOn_eq_ok hg hs'
        obtain ⟨w, g', hl, hg'', rfl⟩ := ih hg' h
        rw [← List.append_cons] at hg'' ⊢
        exact ⟨w, _, .switch (hmem.resolve_right hne) (Option.isNone_iff_eq_none.mp hn) hl, hg'',
          rfl⟩
      · rename_i hn
        have hf := hmem.resolve_right (by rintro rfl; exact hn rfl)
        split at h
        · rename_i hr
          subst hr
          cases h
          exact ⟨some f, [], .waits hf (by simpa using hn), by simpa using hg, by simp [after]⟩
        · have hv : f.value.isSome := by simpa [Option.isSome_iff_ne_none] using hn
          obtain ⟨hv, hg', rfl⟩ := takes_of_give hg hv h
          exact ⟨none, _, letters_attached hf hv, hg', rfl⟩

theorem argument_hyphens (hl : arg.toList = '-' :: '-' :: name) (hn : name ≠ []) :
    argument p (after g none) arg =
      match name.dropWhile (· ≠ '=') with
      | _ :: value => (after g none).long p (String.ofList (name.takeWhile (· ≠ '=')))
          (some (String.ofList value))
      | [] => (after g none).long p (String.ofList name) none := by
  unfold argument
  rw [hl]
  cases name with
  | nil => exact absurd rfl hn
  | cons c name => rfl

theorem argument_name {n : String} (hn : n ≠ "") (h : '=' ∉ n.toList) :
    argument p (after g none) ("--" ++ n) = (after g none).long p n none := by
  have hdrop : n.toList.dropWhile (· ≠ '=') = [] :=
    List.dropWhile_eq_nil_iff.mpr fun c hc => decide_eq_true fun he => h (he ▸ hc)
  have hl : ("--" ++ n).toList = '-' :: '-' :: n.toList := String.toList_append
  rw [argument_hyphens hl (by simpa using hn), hdrop]
  simp only [String.ofList_toList]

theorem argument_name_equals {n v : String} (h : '=' ∉ n.toList) :
    argument p (after g none) ("--" ++ n ++ "=" ++ v) = (after g none).long p n (some v) := by
  have hl : ("--" ++ n ++ "=" ++ v).toList = '-' :: '-' :: (n.toList ++ '=' :: v.toList) := by
    simp
  have hall : ∀ c ∈ n.toList, decide (c ≠ '=') = true := fun c hc =>
    decide_eq_true fun he => h (he ▸ hc)
  rw [argument_hyphens hl (by simp), List.dropWhile_append_of_pos hall,
    List.dropWhile_cons_of_neg (by simp), List.takeWhile_append_of_pos hall,
    List.takeWhile_cons_of_neg (by simp)]
  simp only [List.append_nil, String.ofList_toList]

theorem argument_names {c : Char} (hl : arg.toList = '-' :: c :: l) (hc : c ≠ '-') :
    argument p (after g none) arg = (after g none).short p (c :: l) := by
  unfold argument
  rw [hl]
  simp [after, hc]

theorem long_none_of_mem (hp : p.Distinct) (hf : f ∈ p.flags) : (after g w).long p f.long none =
    if f.value.isSome then .ok (after g (some f)) else (after g w).turnOn f := by
  unfold long
  rw [hp.find?_long hf]
  rfl

theorem long_some_of_mem (hp : p.Distinct) (hf : f ∈ p.flags) (hv : f.value.isSome) :
    s.long p f.long (some value) = s.give f value := by
  unfold long
  rw [hp.find?_long hf]
  exact if_pos hv

theorem argument_of_word (hp : p.Distinct) (hw : Word p arg w g') (hg : Given.Once (g ++ g')) :
    argument p (after g none) arg = .ok (after (g ++ g') w) := by
  have hlong : ∀ f ∈ p.flags, f.long ≠ "" ∧ '=' ∉ f.long.toList := fun f hf =>
    hp.long_ne f (mem_allFlags_iff.mpr (.inl hf))
  cases hw with
  | @switch f hf hn =>
    rw [argument_name (hlong f hf).1 (hlong f hf).2, long_none_of_mem hp hf, hn, if_neg (by simp)]
    exact turnOn_of_once hp hf hn hg
  | @waits f hf hv =>
    rw [argument_name (hlong f hf).1 (hlong f hf).2, long_none_of_mem hp hf,
      if_pos (Option.isSome_iff_ne_none.mpr hv), List.append_nil]
  | @equals f value hf hv =>
    rw [argument_name_equals (hlong f hf).2, long_some_of_mem hp hf hv.isSome]
    exact give_of_takes hv hg
  | @letters l _ _ hl hne =>
    cases l with
    | nil => exact absurd rfl hne
    | cons c l =>
      rw [argument_names String.toList_ofList (hl.ne_hyphen hp)]
      exact short_of_letters hp hl hg

theorem word_of_long {n : String} (hg : g.Once) (h : (after g none).long p n none = .ok s) :
    ∃ w g', Word p ("--" ++ n) w g' ∧ Given.Once (g ++ g') ∧ s = after (g ++ g') w := by
  unfold long at h
  split at h
  · cases h
  · rename_i f hfind hnone
    obtain rfl : f.long = n := by simpa using List.find?_some hfind
    have hmem := mem_allFlags_iff.mp (List.mem_of_find?_eq_some hfind)
    split at h
    · rename_i hv
      have hf := hmem.resolve_right (by rintro rfl; cases hv)
      cases h
      exact ⟨some f, [], .waits hf (Option.isSome_iff_ne_none.mp hv), by simpa using hg,
        by simp [after]⟩
    · rename_i hv
      obtain ⟨hne, hg', rfl⟩ := of_turnOn_eq_ok hg h
      exact ⟨none, _, .switch (hmem.resolve_right hne) (by simpa using hv), hg', rfl⟩
  · rename_i heq
    cases heq

theorem word_of_long_value {n v : String} (hg : g.Once)
    (h : (after g none).long p n (some v) = .ok s) :
    ∃ w g', Word p ("--" ++ n ++ "=" ++ v) w g' ∧ Given.Once (g ++ g') ∧
      s = after (g ++ g') w := by
  unfold long at h
  split at h
  · cases h
  · rename_i heq
    cases heq
  · rename_i f v' hfind heq
    obtain rfl : f.long = n := by simpa using List.find?_some hfind
    obtain rfl : v = v' := Option.some.inj heq
    have hmem := mem_allFlags_iff.mp (List.mem_of_find?_eq_some hfind)
    split at h
    · rename_i hv
      obtain ⟨ht, hg', rfl⟩ := takes_of_give hg hv h
      exact ⟨none, _, .equals (hmem.resolve_right (by rintro rfl; cases hv)) ht, hg', rfl⟩
    · cases h

/-- A long name stands alone or before the first equals sign. -/
theorem hyphens_cases (hl : arg.toList = '-' :: '-' :: name) (hn : name ≠ []) :
    (∃ n, n ≠ "" ∧ '=' ∉ n.toList ∧ arg = "--" ++ n) ∨
      ∃ n v, '=' ∉ n.toList ∧ arg = "--" ++ n ++ "=" ++ v := by
  by_cases h : '=' ∈ name
  · obtain ⟨front, value, rfl, hfront⟩ := List.eq_append_cons_of_mem h
    refine .inr ⟨String.ofList front, String.ofList value, by simpa using hfront, ?_⟩
    rw [← String.toList_inj, hl]
    simp
  · refine .inl ⟨String.ofList name, by simpa using hn, by simpa using h, ?_⟩
    rw [← String.toList_inj, hl]
    simp

theorem word_of_argument (hg : g.Once) (h : argument p (after g none) arg = .ok s) :
    (arg = "--" ∧ s = ⟨g, none, true⟩) ∨
      ∃ w g', Word p arg w g' ∧ Given.Once (g ++ g') ∧ s = after (g ++ g') w := by
  have hcases := h
  unfold argument after at hcases
  rw [if_neg Bool.false_ne_true] at hcases
  split at hcases
  · rename_i hw _
    cases hw
  · rename_i hw _
    cases hw
  · rename_i hl
    cases hcases
    exact .inl ⟨String.toList_inj.mp hl, rfl⟩
  · rename_i name hne _ hl
    right
    obtain ⟨n, hn, he, rfl⟩ | ⟨n, v, he, rfl⟩ := hyphens_cases hl hne
    · exact word_of_long hg (argument_name hn he ▸ h)
    · exact word_of_long_value hg (argument_name_equals he ▸ h)
  · rename_i c names _ _ _ hl
    right
    obtain ⟨w, g', hw, hrest⟩ := letters_of_short hg hcases
    refine ⟨w, g', ?_, hrest⟩
    rw [← String.ofList_toList (s := arg), hl]
    exact .letters hw (List.cons_ne_nil c names)
  · cases hcases

/-- What a waiting flag takes as its value: anything but the look of another flag. -/
theorem argument_waiting : argument p (after g (some f)) value =
    if value = "-" ∨ value.toList.head? ≠ some '-' then (after g (some f)).give f value
    else .error (.usage (.missingValue f.long)) := by
  have hlone : value = "-" ↔ value.toList = ['-'] := String.toList_inj.symm
  unfold argument after
  simp only [hlone]
  match value.toList with
  | [] => simp
  | [c] => by_cases hc : c = '-' <;> simp [hc]
  | c :: d :: rest => by_cases hc : c = '-' <;> simp [hc]

def finishing (p : Program) (s : Progress) (args : List String) : Except Stop Given :=
  args.foldlM (argument p) s >>= finish

theorem finishing_nil : finishing p ⟨g, none, false⟩ [] = .ok g := rfl

theorem finishing_cons : finishing p s (arg :: args) =
    argument p s arg >>= fun s => finishing p s args := by
  simp [finishing, List.foldlM_cons]

theorem finishing_ended : finishing p ⟨g, none, true⟩ args = .ok g' ↔ args = [] ∧ g = g' := by
  cases args with
  | nil => simp [finishing, finish, pure, Except.pure, bind, Except.bind]
  | cons arg args => simp [finishing_cons, argument, bind, Except.bind]

theorem finishing_of_spells (hp : p.Distinct) (h : Spells p w args g')
    (hg : Given.Once (g ++ g')) : finishing p (after g w) args = .ok (g ++ g') := by
  -- No flag stands twice in the whole, and so none is refused as a second one on the way.
  induction h generalizing g with
  | nil =>
    rw [List.append_nil]
    exact finishing_nil
  | ended =>
    rw [finishing_cons, List.append_nil]
    change finishing p ⟨g, none, true⟩ [] = .ok g
    exact finishing_ended.mpr ⟨rfl, rfl⟩
  | word hw h ih =>
    rw [← List.append_assoc] at hg ⊢
    rw [finishing_cons, argument_of_word hp hw hg.of_append]
    exact ih hg
  | value hv hh h ih =>
    rw [List.append_cons] at hg ⊢
    rw [finishing_cons, argument_waiting, if_pos hh, give_of_takes hv hg.of_append]
    exact ih hg

theorem spells_of_finishing (hw : ∀ f, w = some f → f.value.isSome) (hg : g.Once)
    (h : finishing p (after g w) args = .ok g') :
    ∃ new, Spells p w args new ∧ g' = g ++ new ∧ g'.Once := by
  -- Flags are never given up once they are read, so that what comes is a continuation of them.
  induction args generalizing g w with
  | nil =>
    cases w with
    | none =>
      obtain rfl : g = g' := Except.ok.inj (finishing_nil.symm.trans h)
      exact ⟨[], .nil, by simp, hg⟩
    | some f => cases h
  | cons arg args ih =>
    rw [finishing_cons] at h
    obtain ⟨s, hs, h⟩ := bind_eq_ok_iff.mp h
    cases w with
    | none =>
      obtain ⟨rfl, rfl⟩ | ⟨w, new, hword, hg', rfl⟩ := word_of_argument hg hs
      · obtain ⟨rfl, rfl⟩ := finishing_ended.mp h
        exact ⟨[], .ended, by simp, hg⟩
      · obtain ⟨rest, hrest, rfl, hr⟩ := ih (fun f hf => (hf ▸ hword).isSome) hg' h
        exact ⟨new ++ rest, .word hword hrest, by simp, hr⟩
    | some f =>
      rw [argument_waiting] at hs
      split at hs
      · rename_i hh
        obtain ⟨hv, hg', rfl⟩ := takes_of_give hg (hw f rfl) hs
        obtain ⟨rest, hrest, rfl, hr⟩ := ih (by simp) hg' h
        exact ⟨_, .value hv hh hrest, by simp, hr⟩
      · cases hs

end Steps

end Progress

/-- A program reads the flags that its arguments spell, and stops at all other arguments. -/
theorem read_eq_ok_iff {p : Program} (hp : p.Distinct) {args : List String} {g : Given} :
    p.read args = .ok g ↔ Spells p none args g ∧ g.Once := by
  change Progress.finishing p (Progress.after [] none) args = .ok g ↔ _
  constructor
  · intro h
    have hnil : Given.Once [] := List.nodup_nil
    obtain ⟨new, hs, rfl, hg⟩ := Progress.spells_of_finishing (by simp) hnil h
    exact ⟨hs, hg⟩
  · rintro ⟨hs, hg⟩
    exact Progress.finishing_of_spells hp hs hg

end ShellDocs.CommandLine
