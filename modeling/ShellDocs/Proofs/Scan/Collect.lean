import ShellDocs.Proofs.Scan.Reach

/-! # What a scan collects

A scan gives one finding for each script at the end of a trail, in the order of the trails. The
documented scripts among them are keyed by their trails.
-/

namespace ShellDocs

open Files

variable {t : FileTree} {root : String} {trail : List String} {loc : Location}

section Findings

/-- What a script at the end of a trail gives. -/
def scriptFinding (t : FileTree) (root : String) (trail : List String) : Finding :=
  match readScript t (Path.below root trail) with
  | .ok (some fields) => .documented (trailKey trail, fields)
  | .ok none => .undocumented (Path.below root trail)
  | .error e => .scriptSkipped e

def Finding.isOfScript : Finding → Bool
  | entrySkipped _ => false
  | _ => true

def Notice.isOfScript : Notice → Bool
  | documented _ | undocumented _ | scriptSkipped _ => true
  | _ => false

def Notice.documented? : Notice → Option String
  | documented script => some script
  | _ => none

theorem Finding.isOfScript_notice (f : Finding) : f.notice.isOfScript = f.isOfScript := by
  cases f <;> rfl

theorem Finding.documented?_notice (f : Finding) :
    f.notice.documented? = f.script?.map (·.1) := by
  cases f <;> rfl

theorem Finding.isOfScript_of_script? {f : Finding} {script : Script}
    (h : f.script? = some script) : f.isOfScript = true := by
  cases f with
  | documented _ => rfl
  | _ => cases h

theorem script?_scriptFinding {k : String} {fields : Fields} :
    (scriptFinding t root trail).script? = some (k, fields) ↔
      k = trailKey trail ∧ readScript t (Path.below root trail) = .ok (some fields) := by
  unfold scriptFinding
  split
  · rename_i f hr
    rw [hr]
    simp [Finding.script?, eq_comm]
  · rename_i hr
    rw [hr]
    simp [Finding.script?]
  · rename_i e hr
    rw [hr]
    simp [Finding.script?]

theorem finding?_below (h : ∀ name ∈ trail, IsName name) :
    finding? t root (.file (Path.below root trail)) =
      if isScript (Path.below root trail) then some (scriptFinding t root trail) else none := by
  rw [finding?, relativeKey_below h]
  rfl

theorem filter_isOfScript_findings (t : FileTree) (root : String) (found : List Found) :
    (found.filterMap (finding? t root)).filter Finding.isOfScript =
      (found.filterMap Found.file?).filterMap fun path => finding? t root (.file path) := by
  rw [List.filterMap_filterMap, List.filter_filterMap]
  congr 1
  funext f
  cases f with
  | unreadable e => rfl
  | file path =>
    simp only [finding?, Found.file?, Option.bind_some]
    split
    · split <;> rfl
    · rfl

/-- Each script at the end of a trail gives one finding, and the findings stand in the order of
the trails. -/
theorem exists_scriptTrails (hroot : t.resolve root = .ok (.directory loc)) :
    ∃ trails : List (List String), trails.Pairwise (· < ·) ∧
      (∀ trail, trail ∈ trails ↔ (∃ bytes, WalksToFile t root trail bytes) ∧ IsScriptTrail trail) ∧
      (findings t root loc).filter Finding.isOfScript = trails.map (scriptFinding t root) := by
  obtain ⟨trails, hlt, hmem, hfiles⟩ := exists_trails hroot
  refine ⟨trails.filter fun trail => isScript (Path.below root trail), hlt.filter _, ?_, ?_⟩
  · intro trail
    rw [List.mem_filter, hmem]
    constructor
    · rintro ⟨⟨bytes, hw⟩, hs⟩
      exact ⟨⟨bytes, hw⟩, (isScript_below_iff hw.isName hw.ne_nil).mp hs⟩
    · rintro ⟨⟨bytes, hw⟩, hs⟩
      exact ⟨⟨bytes, hw⟩, (isScript_below_iff hw.isName hw.ne_nil).mpr hs⟩
  · have hfinding : ∀ trail ∈ trails, finding? t root (.file (Path.below root trail)) =
        if isScript (Path.below root trail) then some (scriptFinding t root trail) else none := by
      intro trail ht
      obtain ⟨bytes, hw⟩ := (hmem trail).mp ht
      exact finding?_below hw.isName
    rw [findings, filter_isOfScript_findings, hfiles, List.filterMap_map,
      ← List.filterMap_eq_map, List.filterMap_filter]
    exact List.filterMap_congr hfinding

end Findings

section Reading

theorem fieldsOf_eq_ok_some_iff {path : String} {bytes : ByteArray} {fields : Fields} :
    fieldsOf path bytes = .ok (some fields) ↔
      ∃ text source, String.fromUTF8? bytes = some text ∧ Block.read? text = some source ∧
        fields = source.insert Fields.pathName path := by
  unfold fieldsOf FileTree.textOf
  cases String.fromUTF8? bytes with
  | none => simp
  | some text =>
    rw [Except.ok.injEq, Option.map_eq_some_iff]
    simp [eq_comm]

theorem readScript_eq_ok_some_iff {path : String} {fields : Fields} :
    readScript t path = .ok (some fields) ↔
      ∃ loc bytes text source, t.resolve path = .ok (.file loc bytes) ∧
        String.fromUTF8? bytes = some text ∧ Block.read? text = some source ∧
        fields = source.insert Fields.pathName path := by
  unfold readScript
  constructor
  · intro h
    split at h
    · rename_i bytes hb
      obtain ⟨loc, hr⟩ := FileTree.readBytes_eq_ok_iff.mp hb
      obtain ⟨text, source, ht, hs, hf⟩ := fieldsOf_eq_ok_some_iff.mp h
      exact ⟨loc, bytes, text, source, hr, ht, hs, hf⟩
    · cases h
  · rintro ⟨loc, bytes, text, source, hr, ht, hs, hf⟩
    rw [FileTree.readBytes_eq_ok_iff.mpr ⟨loc, hr⟩]
    exact fieldsOf_eq_ok_some_iff.mpr ⟨text, source, ht, hs, hf⟩

end Reading

section Collection

/-- What a scan of a directory gives: its documented scripts and its log. -/
structure Scanned (t : FileTree) (root : String) (docs : DocSet) (log : List Notice) : Prop where
  /-- The keys are those of the trails that end at a script with a block. Such a key has the fields
  of the block, and the path. -/
  get?_iff : ∀ k fields, docs.get? k = some fields ↔
    ∃ trail loc bytes text source, WalksToFile t root trail bytes ∧ IsScriptTrail trail ∧
      t.resolve (Path.below root trail) = .ok (.file loc bytes) ∧
      String.fromUTF8? bytes = some text ∧ Block.read? text = some source ∧
      k = trailKey trail ∧ fields = source.insert Fields.pathName (Path.join root k)
  /-- A file at the end of a trail is found there unless the path or a name is too long. -/
  resolves : ∀ trail bytes, WalksToFile t root trail bytes →
    checkPath (Path.below root trail) = .ok () →
    (∀ name ∈ trail, name.utf8ByteSize ≤ maxName) →
    ∃ loc, t.resolve (Path.below root trail) = .ok (.file loc bytes)
  trailKey_injective : ∀ trail trail' bytes bytes', WalksToFile t root trail bytes →
    WalksToFile t root trail' bytes' → trailKey trail = trailKey trail' → trail = trail'
  /-- Every script at the end of a trail has one notice, in the order of the walk. -/
  notices : ∃ trails : List (List String), trails.Pairwise (· < ·) ∧
    (∀ trail, trail ∈ trails ↔ (∃ bytes, WalksToFile t root trail bytes) ∧ IsScriptTrail trail) ∧
    log.filter Notice.isOfScript = trails.map fun trail => (scriptFinding t root trail).notice
  /-- The notices of documented scripts name every key once. -/
  documented : (log.filterMap Notice.documented?).Perm docs.keys

variable {trails : List (List String)}

theorem filterMap_script?_eq {found : List Finding}
    (h : found.filter Finding.isOfScript = trails.map (scriptFinding t root)) :
    found.filterMap Finding.script? =
      trails.filterMap fun trail => (scriptFinding t root trail).script? := by
  have hs : found.filterMap Finding.script? =
      (found.filter Finding.isOfScript).filterMap Finding.script? := by
    rw [List.filterMap_filter]
    refine List.filterMap_congr fun f _ => ?_
    split
    · rfl
    · rename_i hf
      cases hscript : f.script? with
      | none => rfl
      | some script => exact absurd (Finding.isOfScript_of_script? hscript) hf
  rw [hs, h, List.filterMap_map]
  rfl

theorem nodup_keys_scripts (hn : trails.Nodup)
    (h : ∀ trail ∈ trails, ∀ name ∈ trail, IsName name) :
    ((trails.filterMap fun trail => (scriptFinding t root trail).script?).map (·.1)).Nodup := by
  rw [List.map_filterMap, List.Nodup, List.pairwise_filterMap]
  refine hn.imp_of_mem fun {a b} ha hb hne x hx y hy he => hne ?_
  obtain ⟨⟨k, fields⟩, hs, rfl⟩ := Option.map_eq_some_iff.mp hx
  obtain ⟨⟨k', fields'⟩, hs', rfl⟩ := Option.map_eq_some_iff.mp hy
  have hk : k = trailKey a := (script?_scriptFinding.mp hs).1
  have hk' : k' = trailKey b := (script?_scriptFinding.mp hs').1
  exact trailKey_injective (h a ha) (h b hb) (hk.symm.trans (he.trans hk'))

theorem scanned_findings (hroot : t.resolve root = .ok (.directory loc)) :
    Scanned t root (OrderedMap.ofList ((findings t root loc).filterMap Finding.script?))
      ((findings t root loc).map Finding.notice) := by
  obtain ⟨trails, hlt, hmem, hfound⟩ := exists_scriptTrails hroot
  have hdistinct : (((findings t root loc).filterMap Finding.script?).map (·.1)).Nodup := by
    rw [filterMap_script?_eq hfound]
    have hnodup : trails.Nodup := by
      refine hlt.imp fun {a b} hab (he : a = b) => ?_
      exact List.lt_irrefl b (he ▸ hab)
    refine nodup_keys_scripts hnodup fun trail ht => ?_
    obtain ⟨⟨bytes, hw⟩, -⟩ := (hmem trail).mp ht
    exact hw.isName
  constructor
  case get?_iff =>
    intro k fields
    rw [OrderedMap.get?_ofList_eq_some_iff hdistinct, filterMap_script?_eq hfound,
      List.mem_filterMap]
    simp only [script?_scriptFinding, readScript_eq_ok_some_iff]
    constructor
    · rintro ⟨trail, ht, rfl, loc, bytes, text, source, hr, htext, hs, rfl⟩
      obtain ⟨⟨bytes', hw⟩, hscript⟩ := (hmem trail).mp ht
      obtain rfl := hw.eq_of_resolve hr
      refine ⟨trail, loc, bytes, text, source, hw, hscript, hr, htext, hs, rfl, ?_⟩
      rw [below_eq_join hw.isName hw.ne_nil]
    · rintro ⟨trail, loc, bytes, text, source, hw, hscript, hr, htext, hs, rfl, rfl⟩
      refine ⟨trail, (hmem trail).mpr ⟨⟨bytes, hw⟩, hscript⟩, rfl, ?_⟩
      refine ⟨loc, bytes, text, source, hr, htext, hs, ?_⟩
      rw [below_eq_join hw.isName hw.ne_nil]
  case resolves =>
    intro trail bytes hw
    exact hw.resolve
  case trailKey_injective =>
    intro trail trail' bytes bytes' hw hw'
    exact ShellDocs.trailKey_injective hw.isName hw'.isName
  case notices =>
    refine ⟨trails, hlt, hmem, ?_⟩
    have hcomp : Notice.isOfScript ∘ Finding.notice = Finding.isOfScript :=
      funext Finding.isOfScript_notice
    rw [List.filter_map, hcomp, hfound, List.map_map]
    rfl
  case documented =>
    have hcomp : Notice.documented? ∘ Finding.notice = fun f => f.script?.map (·.1) :=
      funext Finding.documented?_notice
    rw [List.filterMap_map, hcomp, ← List.map_filterMap]
    exact (OrderedMap.keys_ofList_perm hdistinct).symm

/-- A scan collects the scripts at the ends of the trails from its root. It fails exactly when the
root leads to no directory. -/
theorem scanned_or_inputNotFound (t : FileTree) (root : String) :
    (∃ loc, t.resolve root = .ok (.directory loc)) ∧
        (∃ docs log, scan t root = .ok ⟨docs, log⟩ ∧ Scanned t root docs log) ∨
      (∀ loc, t.resolve root ≠ .ok (.directory loc)) ∧
        scan t root = .error (.inputNotFound root) := by
  by_cases h : ∃ loc, t.resolve root = .ok (.directory loc)
  · obtain ⟨loc, hroot⟩ := h
    refine .inl ⟨⟨loc, hroot⟩, _, _, ?_, scanned_findings hroot⟩
    rw [scan, hroot]
  · refine .inr ⟨not_exists.mp h, ?_⟩
    unfold scan
    split
    · rename_i loc hroot
      exact absurd ⟨loc, hroot⟩ h
    · rfl

end Collection

end ShellDocs
