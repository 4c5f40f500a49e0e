import ShellDocs.Proofs.Generate.SameDocuments
import ShellDocs.Proofs.Watch.Coverage
import ShellDocs.Watch.Change

/-! # Edits that matter are seen

What a scan documents depends on files under the names of scripts alone. An edit that makes a
difference to it is an edit of such a file, which a change tells by the path.
-/

namespace ShellDocs.Watch

open Files FileTree

section Edits

variable {t u : FileTree} {loc : Location} {path : String}

theorem sameScriptFiles_of_differsAt (h : DiffersAt t u loc) (hs : ¬ IsScriptTrail loc) :
    SameScriptFiles t u := by
  intro l hl bytes
  rw [h.get?_of_ne l]
  rintro rfl
  exact hs hl

/-- Trees with the same ways and the same files under the names of scripts are documented alike. -/
theorem scan_docs_eq (ht : t.NoLinks) (hk : KeepsWays t u) (hk' : KeepsWays u t)
    (hs : SameScriptFiles t u) (root : String) :
    (scan t root).map Scan.docs = (scan u root).map Scan.docs := by
  by_cases hroot : ∃ top, t.resolve root = .ok (.directory top)
  · obtain ⟨top, hr⟩ := hroot
    have hr' := hk.resolve hr
    obtain ⟨log, hscan⟩ := exists_scan_eq ⟨top, hr⟩
    obtain ⟨log', hscan'⟩ := exists_scan_eq ⟨top, hr'⟩
    rw [hscan, hscan', (hs.sameScripts ht (hk'.noLinks ht) hr hr').documents_eq]
    rfl
  · have hroot' : ¬ ∃ top, u.resolve root = .ok (.directory top) := fun ⟨top, hr⟩ =>
      hroot ⟨top, hk'.resolve hr⟩
    rw [scan_of_not_directory hroot, scan_of_not_directory hroot']

theorem isScript_of_edits (ht : t.NoLinks) (he : Edits t path u) {root : String}
    (hd : (scan t root).map Scan.docs ≠ (scan u root).map Scan.docs) : isScript path = true := by
  obtain ⟨front, dir, name, hsegments, hn, hdiff⟩ := he.exists_differsAt ht
  rw [isScript_iff_of_segments hn hsegments]
  by_contra hs
  have hfiles := sameScriptFiles_of_differsAt hdiff hs
  exact hd (scan_docs_eq ht hdiff.keepsWays hdiff.symm.keepsWays hfiles root)

end Edits

section Messages

variable {w : World} {m : Nat} {schedule : Schedule}

theorem Ledger.sent_take (g : Ledger) : g.take.sent = g.sent := by
  unfold take
  split <;> rfl

theorem Ledger.sent_step (g : Ledger) (p : Phase) : (g.step p).sent = g.sent := by
  cases p with
  | waiting | draining => exact g.sent_take
  | _ => rfl

theorem World.mem_sent_act (h : m ∈ w.ledger.sent) (a : Action) : m ∈ (w.act a).ledger.sent := by
  cases a with
  | send =>
    change m ∈ w.send.ledger.sent
    unfold World.send
    split
    · exact h
    · exact List.mem_append_left _ h
  | close | pass _ => exact h
  | step job =>
    change m ∈ (w.step job).ledger.sent
    rcases w.step_cases job with ⟨-, -, he⟩ | ⟨next, -, -, hg, -⟩
    · rwa [he]
    · rwa [hg, Ledger.sent_step]

theorem World.mem_sent_run (h : m ∈ w.ledger.sent) (actions : List Action) :
    m ∈ (w.run actions).ledger.sent := by
  induction actions generalizing w with
  | nil => exact h
  | cons a actions ih => exact ih (World.mem_sent_act h a)

theorem World.after_eq_run (w : World) (schedule : Schedule) (n : Nat) :
    w.after schedule n = w.run ((List.range n).map schedule) := by
  induction n with
  | zero => rfl
  | succ n ih =>
    rw [World.after, ih, List.range_succ, List.map_append, World.run, World.run, List.foldl_append]
    rfl

def World.HasRunSince (w : World) (m : Nat) : Prop :=
  ∃ r, w.ledger.runs.head? = some r ∧ m < r.started

theorem Agrees.hasRunSince (h : Agrees w.loop w.ledger) (hm : m ∈ w.ledger.sent)
    (actions : List Action) (hr : (w.run actions).loop.AtRest) : (w.run actions).HasRunSince m :=
  (h.run actions).rest hr (World.mem_sent_run hm actions)

theorem Agrees.exists_hasRunSince (h : Agrees w.loop w.ledger) (hm : m ∈ w.ledger.sent)
    (hf : w.IsFair schedule) (hn : ∀ n, schedule n ≠ .send) :
    ∃ n, ∀ k ≥ n, (w.after schedule k).HasRunSince m := by
  obtain ⟨n, hrest⟩ := World.exists_atRest hf hn
  refine ⟨n, fun k hk => ?_⟩
  have hr := World.atRest_after hn hk hrest
  rw [World.after_eq_run] at hr ⊢
  exact h.hasRunSince hm _ hr

/-- A watcher sends a message for a change that counts. -/
def Change.actions (c : Change) : List Action := if c.affectsScripts then [.send] else []

theorem World.mem_sent_actions {c : Change} (hc : c.affectsScripts = true)
    (hw : w.loop.closed = false) : w.ledger.moment ∈ (w.run c.actions).ledger.sent := by
  have hsend : w.run c.actions = w.send := by
    rw [Change.actions, if_pos hc]
    rfl
  have hopen : ¬ w.loop.closed = true := by simp [hw]
  rw [hsend, World.send, if_neg hopen]
  exact List.mem_append_right _ (List.mem_singleton_self _)

end Messages

/-- Without links, every change that names the path of an edit counts if the edit makes a difference
to what is documented. The loop makes a run for it, unless the last sender is gone: the latest run
has started after the change whenever the loop is at rest, and the loop comes to rest if it is given
steps as time goes on. -/
theorem edit_seen {t u : FileTree} {path root : String} (ht : t.NoLinks) (he : Edits t path u)
    (hd : (scan t root).map Scan.docs ≠ (scan u root).map Scan.docs) {c : Change}
    (hk : c.kind ≠ .other) (hp : path ∈ c.paths) :
    c.affectsScripts = true ∧
      ∀ tree interval before, ((World.start tree interval).run before).loop.closed = false →
        let w := (World.start tree interval).run before
        (∀ after, ((w.run c.actions).run after).loop.AtRest →
          ((w.run c.actions).run after).HasRunSince w.ledger.moment) ∧
        ∀ schedule, (w.run c.actions).IsFair schedule → (∀ n, schedule n ≠ .send) →
          ∃ n, ∀ k ≥ n, ((w.run c.actions).after schedule k).HasRunSince w.ledger.moment := by
  have hscript := isScript_of_edits ht he hd
  have hc : c.affectsScripts = true := by
    rw [Change.affectsScripts, Bool.and_eq_true, decide_eq_true_eq, List.any_eq_true]
    exact ⟨hk, path, hp, hscript⟩
  refine ⟨hc, fun tree interval before hopen => ?_⟩
  have hagrees := (agrees_run tree interval before).run c.actions
  have hsent := World.mem_sent_actions hc hopen
  exact ⟨fun after => hagrees.hasRunSince hsent after,
    fun schedule hf hn => hagrees.exists_hasRunSince hsent hf hn⟩

section Sample

theorem scan_remove_plainTree :
    scan (plainTree.remove ["in", "a.sh"]) "in" = .ok ⟨∅, []⟩ := by
  have hroot : (plainTree.remove ["in", "a.sh"]).resolve "in" = .ok (.directory ["in"]) := by rfl
  have hchildren : (plainTree.remove ["in", "a.sh"]).children ["in"] = [] := by decide +kernel
  have hfindings : findings (plainTree.remove ["in", "a.sh"]) "in" ["in"] = [] := by
    rw [findings, walk_eq, hchildren]
    rfl
  simp only [scan, hroot, hfindings]
  rfl

def idle : Job := fun t => ⟨t, [], .finished 0⟩

/-- The only script is deleted. -/
theorem edit_seen_plainTree :
    let c : Change := ⟨.remove, ["in/a.sh"]⟩
    let w := (World.start plainTree 10).run c.actions
    c.affectsScripts = true ∧ (w.run (List.replicate 5 (.step idle))).HasRunSince 0 ∧
      ∃ n, ∀ k ≥ n, (w.after (steady idle) k).HasRunSince 0 := by
  have he : Edits plainTree "in/a.sh" (plainTree.remove ["in", "a.sh"]) :=
    .delete (by rfl) (by rfl)
  have hd : (scan plainTree "in").map Scan.docs ≠
      (scan (plainTree.remove ["in", "a.sh"]) "in").map Scan.docs := by
    rw [scan_plainTree, scan_remove_plainTree]
    intro h
    exact absurd (Except.ok.inj h) (by decide)
  obtain ⟨hc, hruns⟩ :=
    edit_seen (c := ⟨.remove, ["in/a.sh"]⟩) (by decide) he hd (by decide) List.mem_cons_self
  obtain ⟨hrest, hfair⟩ := hruns plainTree 10 [] rfl
  exact ⟨hc, hrest _ (.inl ⟨rfl, rfl⟩),
    hfair (steady idle) (isFair_steady _ idle) (steady_ne_send idle)⟩

end Sample

end ShellDocs.Watch
