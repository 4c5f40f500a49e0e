import ShellDocs.Block.Reader
import ShellDocs.Proofs.Block.Line
import ShellDocs.Proofs.OrderedMap

/-! # The grammar of documentation blocks

The first block of a text and the text of each of its fields are described by positions of
lines. Reading a text finds its first block, if there is one, and gives exactly the fields
that the description allows.
-/

namespace ShellDocs.Block

open Text

section Bounds

variable {ls : List (List Char)} {i j : Nat}

def StartsAt (ls : List (List Char)) (i : Nat) : Prop := ∃ l, ls[i]? = some l ∧ trim l = startMark

def EndsAt (ls : List (List Char)) (j : Nat) : Prop := ∃ l, ls[j]? = some l ∧ trim l = endMark

/-- The first start mark is line `i`, and the next end mark after it is line `j`. -/
structure FirstBlock (ls : List (List Char)) (i j : Nat) : Prop where
  starts : StartsAt ls i
  first : ∀ i' < i, ¬ StartsAt ls i'
  lt : i < j
  ends : EndsAt ls j
  next : ∀ j', i < j' → j' < j → ¬ EndsAt ls j'

def between (ls : List (List Char)) (i j : Nat) : List (List Char) := (ls.take j).drop (i + 1)

theorem isStart_iff {l : List Char} : isStart l ↔ trim l = startMark := by simp [isStart]

theorem isEnd_iff {l : List Char} : isEnd l ↔ trim l = endMark := by simp [isEnd]

theorem body?_eq_some_iff {body : List (List Char)} :
    body? ls = some body ↔ ∃ pre s e post, ls = pre ++ s :: (body ++ e :: post) ∧
      (∀ l ∈ pre, ¬ isStart l) ∧ isStart s ∧ (∀ l ∈ body, ¬ isEnd l) ∧ isEnd e := by
  constructor
  · intro h
    unfold body? at h
    split at h
    · cases h
    · rename_i s rest hd
      split at h
      · rename_i he
        obtain rfl := Option.some.inj h
        have hne : rest.dropWhile (fun l => !isEnd l) ≠ [] := by
          intro hn
          obtain ⟨e, hm, hp⟩ := List.any_eq_true.mp he
          have := List.dropWhile_eq_nil_iff.mp hn e hm
          simp [hp] at this
        obtain ⟨e, post, hp⟩ := List.exists_cons_of_ne_nil hne
        refine ⟨ls.takeWhile (fun l => !isStart l), s, e, post, ?_, ?_, ?_, ?_, ?_⟩
        · rw [← hp, List.takeWhile_append_dropWhile, ← hd, List.takeWhile_append_dropWhile]
        · intro l hl
          simpa using List.mem_takeWhile_imp hl
        · have := List.head?_dropWhile_not (fun l => !isStart l) ls
          simpa [hd] using this
        · intro l hl
          simpa using List.mem_takeWhile_imp hl
        · have := List.head?_dropWhile_not (fun l => !isEnd l) rest
          simpa [hp] using this
      · cases h
  · rintro ⟨pre, s, e, post, rfl, hpre, hs, hbody, he⟩
    have hd : (pre ++ s :: (body ++ e :: post)).dropWhile (fun l => !isStart l) =
        s :: (body ++ e :: post) := by
      rw [List.dropWhile_append_of_pos (by simpa using hpre),
        List.dropWhile_cons_of_neg (by simpa using hs)]
    have ht : (body ++ e :: post).takeWhile (fun l => !isEnd l) = body := by
      rw [List.takeWhile_append_of_pos (by simpa using hbody),
        List.takeWhile_cons_of_neg (by simpa using he), List.append_nil]
    simp [body?, hd, ht, he]

theorem FirstBlock.unique {i' j' : Nat} (h : FirstBlock ls i j) (h' : FirstBlock ls i' j') :
    i = i' ∧ j = j' := by
  obtain rfl : i = i' := by
    rcases Nat.lt_trichotomy i i' with hlt | he | hgt
    · exact absurd h.starts (h'.first i hlt)
    · exact he
    · exact absurd h'.starts (h.first i' hgt)
  refine ⟨rfl, ?_⟩
  rcases Nat.lt_trichotomy j j' with hlt | he | hgt
  · exact absurd h.ends (h'.next j h.lt hlt)
  · exact he
  · exact absurd h'.ends (h.next j' h'.lt hgt)

theorem exists_firstBlock {body : List (List Char)} (h : body? ls = some body) :
    ∃ i j, FirstBlock ls i j ∧ body = between ls i j := by
  obtain ⟨pre, s, e, post, rfl, hpre, hs, hbody, he⟩ := body?_eq_some_iff.mp h
  refine ⟨pre.length, pre.length + 1 + body.length, ⟨?_, ?_, by omega, ?_, ?_⟩, ?_⟩
  · exact ⟨s, by simp, isStart_iff.mp hs⟩
  · rintro i' hi ⟨l, hl, ht⟩
    rw [List.getElem?_append_left hi] at hl
    exact hpre l (List.mem_of_getElem? hl) (isStart_iff.mpr ht)
  · refine ⟨e, ?_, isEnd_iff.mp he⟩
    rw [List.getElem?_append_right (by omega), List.getElem?_cons]
    simp [show pre.length + 1 + body.length - pre.length = body.length + 1 by omega]
  · rintro j' hi hj ⟨l, hl, ht⟩
    obtain ⟨n, rfl⟩ : ∃ n, j' = pre.length + 1 + n := ⟨j' - (pre.length + 1), by omega⟩
    rw [List.getElem?_append_right (by omega),
      show pre.length + 1 + n - pre.length = n + 1 by omega, List.getElem?_cons_succ,
      List.getElem?_append_left (by omega)] at hl
    exact hbody l (List.mem_of_getElem? hl) (isEnd_iff.mpr ht)
  · have hl : pre ++ s :: (body ++ e :: post) = pre ++ [s] ++ body ++ e :: post := by simp
    have hn : pre.length + 1 + body.length = (pre ++ [s] ++ body).length := by simp; omega
    rw [between, hn, hl, List.take_left']
    · exact (List.drop_left' (by simp)).symm
    · rfl

theorem exists_body? (hij : i < j) (hi : StartsAt ls i) (hj : EndsAt ls j) :
    ∃ body, body? ls = some body := by
  obtain ⟨s, hs, hts⟩ := hi
  obtain ⟨e, he, hte⟩ := hj
  unfold body?
  split
  · rename_i hd
    have := List.dropWhile_eq_nil_iff.mp hd s (List.mem_of_getElem? hs)
    simp [isStart_iff.mpr hts] at this
  · rename_i s' rest hd
    have hl : ls = ls.takeWhile (fun l => !isStart l) ++ s' :: rest := by
      rw [← hd, List.takeWhile_append_dropWhile]
    have hle : (ls.takeWhile (fun l => !isStart l)).length ≤ i := by
      by_contra hlt
      rw [hl, List.getElem?_append_left (by omega)] at hs
      have := List.mem_takeWhile_imp (List.mem_of_getElem? hs)
      simp [isStart_iff.mpr hts] at this
    have hm : e ∈ rest := by
      rw [hl, List.getElem?_append_right (by omega)] at he
      obtain ⟨n, hn⟩ : ∃ n, j - (ls.takeWhile (fun l => !isStart l)).length = n + 1 :=
        ⟨j - (ls.takeWhile (fun l => !isStart l)).length - 1, by omega⟩
      rw [hn, List.getElem?_cons_succ] at he
      exact List.mem_of_getElem? he
    exact ⟨_, if_pos (List.any_eq_true.mpr ⟨e, hm, isEnd_iff.mpr hte⟩)⟩

theorem FirstBlock.body? (h : FirstBlock ls i j) : body? ls = some (between ls i j) := by
  obtain ⟨body, hb⟩ := exists_body? h.lt h.starts h.ends
  obtain ⟨i', j', h', rfl⟩ := exists_firstBlock hb
  obtain ⟨rfl, rfl⟩ := h.unique h'
  exact hb

theorem body?_eq_none_iff :
    body? ls = none ↔ ¬ ∃ i j, i < j ∧ StartsAt ls i ∧ EndsAt ls j := by
  constructor
  · rintro h ⟨i, j, hij, hi, hj⟩
    obtain ⟨body, hb⟩ := exists_body? hij hi hj
    rw [h] at hb
    cases hb
  · intro h
    cases hb : Block.body? ls with
    | none => rfl
    | some body =>
      obtain ⟨i, j, hf, -⟩ := exists_firstBlock hb
      exact absurd ⟨i, j, hf.lt, hf.starts, hf.ends⟩ h

end Bounds

section FieldsOfBody

variable {l : List Char} {body : List (List Char)} {name value : List Char} {k m : Nat}

/-- Line `k` is the last field with this name. -/
structure LastField (body : List (List Char)) (name : List Char) (k : Nat) (value : List Char) :
    Prop where
  isField : ∃ l, body[k]? = some l ∧ IsField l name value
  last : ∀ k' l value', k < k' → body[k']? = some l → ¬ IsField l name value'

/-- Line `m` is the next annotation after line `k`, or the body ends there. -/
structure NextAnnotation (body : List (List Char)) (k m : Nat) : Prop where
  lt : k < m
  le : m ≤ body.length
  prose : ∀ i l, k < i → i < m → body[i]? = some l → ¬ IsAnnotation l
  ends : ∀ l, body[m]? = some l → IsAnnotation l

def dropSign : List Char → List Char
  | '#' :: rest => rest
  | l => l

/-- The text of a field: what is not empty among the value and the lines of prose, in one
line. -/
def fieldText (value : List Char) (prose : List (List Char)) : List Char :=
  [' '].intercalate
    ((trim value :: prose.map (fun l => trim (dropSign (trimStart l)))).filter (· ≠ []))

/-- The fields are those that begin in the body, each with the text of the last one that has
its name. -/
structure Describes (body : List (List Char)) (fields : Fields) : Prop where
  mem_keys_iff : ∀ name, name ∈ fields.keys ↔ ∃ l ∈ body, ∃ value, IsField l name.toList value
  get?_eq : ∀ name k value m, LastField body name.toList k value → NextAnnotation body k m →
    fields.get? name = some (String.ofList (fieldText value (between body k m)))

theorem continued_eq (l : List Char) : continued l = trim (dropSign (trimStart l)) := by
  unfold continued dropSign
  split <;> simp_all

theorem joinPieces_eq (value : List Char) (prose : List (List Char)) :
    joinPieces (trim value :: prose.map continued) = fieldText value prose := by
  rw [fieldText, joinPieces, List.map_congr_left fun l _ => continued_eq l]

@[simp] theorem lastField_cons_succ :
    LastField (l :: body) name (k + 1) value ↔ LastField body name k value := by
  constructor
  · rintro ⟨⟨d, hd, hf⟩, hlast⟩
    exact ⟨⟨d, hd, hf⟩, fun k' d' v hk hd' => hlast (k' + 1) d' v (by omega) hd'⟩
  · rintro ⟨⟨d, hd, hf⟩, hlast⟩
    refine ⟨⟨d, hd, hf⟩, fun k' d' v hk hd' => ?_⟩
    obtain ⟨k', rfl⟩ : ∃ n, k' = n + 1 := ⟨k' - 1, by omega⟩
    exact hlast k' d' v (by omega) hd'

theorem lastField_cons_zero :
    LastField (l :: body) name 0 value ↔
      IsField l name value ∧ ∀ d ∈ body, ∀ value', ¬ IsField d name value' := by
  constructor
  · rintro ⟨⟨d, hd, hf⟩, hlast⟩
    obtain rfl : l = d := Option.some.inj hd
    refine ⟨hf, fun d hm v => ?_⟩
    obtain ⟨n, hn⟩ := List.mem_iff_getElem?.mp hm
    exact hlast (n + 1) d v (by omega) hn
  · rintro ⟨hf, hrest⟩
    refine ⟨⟨l, rfl, hf⟩, fun k' d v hk hd => ?_⟩
    obtain ⟨k', rfl⟩ : ∃ n, k' = n + 1 := ⟨k' - 1, by omega⟩
    exact hrest d (List.mem_of_getElem? hd) v

theorem NextAnnotation.of_cons_succ (h : NextAnnotation (l :: body) (k + 1) (m + 1)) :
    NextAnnotation body k m where
  lt := by have := h.lt; omega
  le := by have := h.le; simp at this; omega
  prose i d hi him hd := h.prose (i + 1) d (by omega) (by omega) hd
  ends d hd := h.ends d hd

theorem NextAnnotation.cons_succ (h : NextAnnotation body k m) :
    NextAnnotation (l :: body) (k + 1) (m + 1) where
  lt := by have := h.lt; omega
  le := by have := h.le; simp; omega
  prose i d hi him hd := by
    obtain ⟨i, rfl⟩ : ∃ n, i = n + 1 := ⟨i - 1, by omega⟩
    exact h.prose i d (by omega) (by omega) hd
  ends d hd := h.ends d hd

theorem takeWhile_isProse_eq (h : NextAnnotation (l :: body) 0 (m + 1)) :
    body.takeWhile isProse = body.take m := by
  have hall : ∀ d ∈ body.take m, isProse d := by
    intro d hd
    obtain ⟨i, hi, hdi⟩ := List.mem_take_iff_getElem.mp hd
    refine isProse_iff.mpr (h.prose (i + 1) d (by omega) (by omega) ?_)
    rw [List.getElem?_cons_succ, ← hdi]
    exact List.getElem?_eq_getElem _
  calc body.takeWhile isProse
      = (body.take m ++ body.drop m).takeWhile isProse := by rw [List.take_append_drop]
    _ = body.take m ++ (body.drop m).takeWhile isProse := List.takeWhile_append_of_pos hall
    _ = body.take m := ?_
  cases hd : body.drop m with
  | nil => simp
  | cons d post =>
    have hm : body[m]? = some d := by
      have := congrArg List.head? hd
      simpa [List.head?_drop] using this
    have hp : ¬ isProse d := fun hp => isProse_iff.mp hp (h.ends d hm)
    simp [List.takeWhile_cons_of_neg hp]

theorem nextAnnotation_takeWhile (l : List Char) (body : List (List Char)) :
    NextAnnotation (l :: body) 0 ((body.takeWhile isProse).length + 1) where
  lt := by omega
  le := by simpa using (List.takeWhile_sublist isProse).length_le
  prose i d hi him hd := by
    obtain ⟨i, rfl⟩ : ∃ n, i = n + 1 := ⟨i - 1, by omega⟩
    rw [List.getElem?_cons_succ, ← List.takeWhile_append_dropWhile (p := isProse) (l := body),
      List.getElem?_append_left (by omega)] at hd
    exact isProse_iff.mp (List.mem_takeWhile_imp (List.mem_of_getElem? hd))
  ends d hd := by
    rw [List.getElem?_cons_succ, ← List.takeWhile_append_dropWhile (p := isProse) (l := body),
      List.getElem?_append_right (by simp)] at hd
    have hh := List.head?_dropWhile_not isProse body
    rw [List.head?_eq_getElem?] at hh
    simp only [List.takeWhile_append_dropWhile, Nat.sub_self] at hd
    rw [hd] at hh
    by_contra hn
    simp [isProse_iff.mpr hn] at hh

theorem exists_lastField (h : ∃ l ∈ body, ∃ value, IsField l name value) :
    ∃ k value m, LastField body name k value ∧ NextAnnotation body k m := by
  induction body with
  | nil => simp at h
  | cons l body ih =>
    by_cases hb : ∃ d ∈ body, ∃ value, IsField d name value
    · obtain ⟨k, value, m, hk, hm⟩ := ih hb
      exact ⟨k + 1, value, m + 1, lastField_cons_succ.mpr hk, hm.cons_succ⟩
    · obtain ⟨d, hd, value, hf⟩ := h
      rcases List.mem_cons.mp hd with rfl | hd
      · exact ⟨0, value, _, lastField_cons_zero.mpr ⟨hf, fun d hd v hv => hb ⟨d, hd, v, hv⟩⟩,
          nextAnnotation_takeWhile d body⟩
      · exact absurd ⟨d, hd, value, hf⟩ hb

theorem written_cons_of_isField (h : IsField l name value) :
    written (l :: body) =
      (String.ofList name, String.ofList (fieldText value (body.takeWhile isProse))) ::
        written body := by
  rw [written, ofChars_eq_field_iff.mpr h]
  simp only [joinPieces_eq]

theorem written_cons_of_not_isField (h : ∀ name value, ¬ IsField l name value) :
    written (l :: body) = written body := by
  rw [written]
  split
  · rename_i name value hl
    exact absurd (ofChars_eq_field_iff.mp hl) (h name value)
  · rfl

theorem mem_map_fst_written_iff {n : String} :
    n ∈ (written body).map (·.1) ↔ ∃ l ∈ body, ∃ value, IsField l n.toList value := by
  induction body with
  | nil => simp [written]
  | cons l body ih =>
    simp only [List.mem_cons, exists_eq_or_imp, ← ih]
    by_cases hf : ∃ name value, IsField l name value
    · obtain ⟨name, value, hf⟩ := hf
      rw [written_cons_of_isField hf, List.map_cons, List.mem_cons]
      refine or_congr_left ⟨?_, ?_⟩
      · rintro rfl
        exact ⟨value, by simpa using hf⟩
      · rintro ⟨value', hf'⟩
        rw [(hf.unique hf').1, String.ofList_toList]
    · have hn : ∀ name value, ¬ IsField l name value := fun name value h => hf ⟨name, value, h⟩
      simp [written_cons_of_not_isField hn, hn]

/-- Of several fields with one name the last is read. -/
theorem lookup_reverse_written {n : String} (hk : LastField body n.toList k value)
    (hm : NextAnnotation body k m) :
    (written body).reverse.lookup n =
      some (String.ofList (fieldText value (between body k m))) := by
  induction body generalizing k m with
  | nil =>
    obtain ⟨_, hd, _⟩ := hk.isField
    simp at hd
  | cons l body ih =>
    obtain ⟨m, rfl⟩ : ∃ n, m = n + 1 := ⟨m - 1, by have := hm.lt; omega⟩
    cases k with
    | zero =>
      obtain ⟨hf, hrest⟩ := lastField_cons_zero.mp hk
      have hnone : (written body).reverse.lookup n = none := by
        refine List.lookup_eq_none_iff.mpr fun e he => ?_
        have hn : n ≠ e.1 := by
          rintro rfl
          have hm' := List.mem_map_of_mem (f := (·.1)) (List.mem_reverse.mp he)
          obtain ⟨d, hd, v, hv⟩ := mem_map_fst_written_iff.mp hm'
          exact hrest d hd v hv
        simpa using hn
      rw [written_cons_of_isField hf, List.reverse_cons, List.lookup_append, hnone,
        String.ofList_toList, takeWhile_isProse_eq hm]
      simp [between]
    | succ k =>
      have hrest := ih (lastField_cons_succ.mp hk) hm.of_cons_succ
      have hb : between (l :: body) (k + 1) (m + 1) = between body k m := by simp [between]
      rw [hb, ← hrest]
      by_cases hf : ∃ name value, IsField l name value
      · obtain ⟨name, value, hf⟩ := hf
        rw [written_cons_of_isField hf, List.reverse_cons, List.lookup_append, hrest,
          Option.some_or]
      · rw [written_cons_of_not_isField fun name value h => hf ⟨name, value, h⟩]

theorem describes_written (body : List (List Char)) :
    Describes body (OrderedMap.ofList (written body)) where
  mem_keys_iff name := by
    rw [OrderedMap.mem_keys_iff, ← mem_map_fst_written_iff, OrderedMap.get?_ofList,
      ← Option.isSome_iff_exists, List.lookup_isSome_iff, List.mem_map]
    refine exists_congr fun e => ?_
    rw [List.mem_reverse, beq_iff_eq, eq_comm]
  get?_eq name k value m hk hm := by
    rw [OrderedMap.get?_ofList, lookup_reverse_written hk hm]

theorem Describes.unique {f g : Fields} (hf : Describes body f) (hg : Describes body g) :
    f = g := by
  refine OrderedMap.ext_get? fun name => ?_
  by_cases h : ∃ l ∈ body, ∃ value, IsField l name.toList value
  · obtain ⟨k, value, m, hk, hm⟩ := exists_lastField h
    rw [hf.get?_eq name k value m hk hm, hg.get?_eq name k value m hk hm]
  · have hnone : ∀ {f : Fields}, Describes body f → f.get? name = none := fun hd =>
      Option.eq_none_iff_forall_ne_some.mpr fun x hx =>
        h ((hd.mem_keys_iff name).mp (OrderedMap.mem_keys_iff.mpr ⟨x, hx⟩))
    rw [hnone hf, hnone hg]

end FieldsOfBody

/-- A text without a start mark before an end mark has no fields. Any other text has exactly
the fields that its first block describes. -/
theorem read?_grammar (text : String) :
    (read? text = none ↔
      ¬ ∃ i j, i < j ∧ StartsAt (lines text.toList) i ∧ EndsAt (lines text.toList) j) ∧
    ∀ fields, read? text = some fields ↔
      ∃ i j, FirstBlock (lines text.toList) i j ∧
        Describes (between (lines text.toList) i j) fields := by
  refine ⟨by rw [read?, Option.map_eq_none_iff, body?_eq_none_iff], fun fields => ?_⟩
  rw [read?, Option.map_eq_some_iff]
  constructor
  · rintro ⟨body, hb, rfl⟩
    obtain ⟨i, j, hf, rfl⟩ := exists_firstBlock hb
    exact ⟨i, j, hf, describes_written _⟩
  · rintro ⟨i, j, hf, hd⟩
    exact ⟨_, hf.body?, (describes_written _).unique hd⟩

end ShellDocs.Block
