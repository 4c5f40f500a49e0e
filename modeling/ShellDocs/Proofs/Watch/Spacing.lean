import ShellDocs.Proofs.Watch.Progress
import ShellDocs.Proofs.Watch.Throttle

/-! # Runs keep their distance

Whatever is sent and whenever, however long the runs take and however they end, the times that are
recorded for two runs are at least the interval apart. A run starts no earlier than the time that is
recorded for it, but it may start later. So two runs may start closer together than the interval, by
as much as the earlier of them was late.
-/

namespace ShellDocs.Watch

open Files

section Prepared

/-- The earliest time that can be recorded for the run that is being prepared. -/
def Phase.earliest? (now : Nat) : Phase → Option Nat
  | .sleeping wake => some wake
  | .draining | .recording => some now
  | .waiting | .starting | .running | .stopped => none

/-- The last recorded time is in the past, and the next is an interval after it at the earliest. -/
structure Loop.Spaced (l : Loop) (now : Nat) : Prop where
  past : ∀ last, l.throttle.lastRun = some last → last ≤ now
  apart : ∀ last, l.throttle.lastRun = some last →
    ∀ time, l.phase.earliest? now = some time → last + l.throttle.minInterval ≤ time

variable {l next : Loop} {now last time : Nat}

theorem Throttle.le_add_remaining {t : Throttle} (hl : t.lastRun = some last) (hp : last ≤ now) :
    last + t.minInterval ≤ now + (t.remaining now).getD 0 := by
  have he := elapsed_of_le hp
  cases hr : t.remaining now with
  | none =>
    have h := (remaining_eq_none_iff hl).mp hr
    rw [Option.getD_none]
    omega
  | some d =>
    obtain ⟨-, hd⟩ := (remaining_eq_some_iff hl).mp hr
    rw [Option.getD_some]
    omega

/-- Whether the loop goes to sleep or not, the run that it prepares is far enough from the last. -/
theorem Loop.Spaced.earliest?_afterMessage (h : l.Spaced now) (hl : l.throttle.lastRun = some last)
    (ht : (l.afterMessage now).earliest? now = some time) :
    last + l.throttle.minInterval ≤ time := by
  have hle := Throttle.le_add_remaining hl (h.past last hl)
  unfold Loop.afterMessage at ht
  split at ht
  · rename_i d hd
    rw [hd] at hle
    cases ht
    exact hle
  · rename_i hd
    rw [hd] at hle
    cases ht
    exact hle

theorem Loop.Spaced.pass (h : l.Spaced now) (duration : Nat) : l.Spaced (now + duration) where
  past last hl := Nat.le_add_right_of_le (h.past last hl)
  apart last hl time ht := by
    have hle := h.apart last hl
    cases hp : l.phase with
    | sleeping wake =>
      rw [hp] at hle ht
      exact hle time ht
    | draining | recording =>
      rw [hp] at hle ht
      cases ht
      exact Nat.le_add_right_of_le (hle now rfl)
    | waiting | starting | running | stopped =>
      rw [hp] at ht
      cases ht

theorem Loop.Spaced.step (h : l.Spaced now) (hs : l.Steps now next) : next.Spaced now := by
  constructor
  · intro last hl
    cases hs with
    | record _ =>
      cases hl
      exact Nat.le_refl _
    | _ => exact h.past last hl
  · intro last hl time ht
    cases hs with
    | take _ _ => exact h.earliest?_afterMessage hl ht
    | wake hp hw =>
      have hle := h.apart last hl _ (by rw [hp, Phase.earliest?])
      cases ht
      exact Nat.le_trans hle hw
    | drain _ _ => exact h.apart last hl time ht
    | drained hp _ => exact h.apart last hl time (by rw [hp, ← ht]; rfl)
    | _ => cases ht

theorem Loop.Steps.record_or_start_or_quiet (hs : l.Steps now next) (g : Ledger) :
    (l.phase = .recording ∧ next.phase = .starting ∧ next.throttle = l.throttle.record now ∧
        (g.step l.phase).runs = g.runs) ∨
      (l.phase = .starting ∧ next.phase ≠ .starting ∧ next.throttle = l.throttle ∧
        (g.step l.phase).runs.length = g.runs.length + 1) ∨
      (l.phase ≠ .starting ∧ next.phase ≠ .starting ∧ next.throttle = l.throttle ∧
        (g.step l.phase).runs = g.runs) := by
  cases hs with
  | record hp =>
    rw [hp]
    exact .inl ⟨rfl, rfl, rfl, rfl⟩
  | start hp =>
    rw [hp]
    exact .inr (.inl ⟨rfl, by simp, rfl, rfl⟩)
  | take hp _ =>
    rw [hp]
    refine .inr (.inr ⟨by simp, ?_, rfl, runs_take g⟩)
    rcases l.afterMessage_cases now with ⟨wake, ha⟩ | ha <;> simp [ha]
  | drain hp _ =>
    rw [hp]
    exact .inr (.inr ⟨by simp, by simp, rfl, runs_take g⟩)
  | stop hp _ _ | drained hp _ =>
    rw [hp]
    exact .inr (.inr ⟨by simp, by simp, rfl, runs_take g⟩)
  | wake hp _ | finish hp =>
    rw [hp]
    exact .inr (.inr ⟨by simp, by simp, rfl, rfl⟩)

end Prepared

section Runs

/-- The time that was recorded for a run, and the time at which it starts. -/
structure Start where
  recorded : Nat
  started : Nat
deriving DecidableEq

namespace World

def start? (w : World) : Action → Option Start
  | .step _ =>
    if w.loop.phase = .starting then w.loop.throttle.lastRun.map (⟨·, w.session.now⟩) else none
  | .send | .close | .pass _ => none

def starts (w : World) : List Action → List Start
  | [] => []
  | a :: rest => (w.start? a).toList ++ (w.act a).starts rest

end World

/-- How an earlier run stands to a later one. -/
structure Start.Precedes (minInterval : Nat) (s t : Start) : Prop where
  apart : s.recorded + minInterval ≤ t.recorded
  started_le : s.started ≤ t.recorded

/-- The runs that have started are apart, and so is the run that is about to start. -/
structure Apart (minInterval : Nat) (w : World) (earlier : List Start) : Prop where
  minInterval_eq : w.loop.throttle.minInterval = minInterval
  spaced : w.loop.Spaced w.session.now
  late : ∀ s ∈ earlier, s.recorded ≤ s.started ∧ s.started ≤ w.session.now
  pairwise : earlier.Pairwise (Start.Precedes minInterval)
  recorded : ∀ s ∈ earlier, ∃ last, w.loop.throttle.lastRun = some last ∧ s.recorded ≤ last
  about : w.loop.phase = .starting → ∃ last, w.loop.throttle.lastRun = some last ∧
    ∀ s ∈ earlier, s.Precedes minInterval ⟨last, w.session.now⟩
  length_eq : earlier.length = w.ledger.runs.length

variable {w : World} {minInterval : Nat} {earlier : List Start}

namespace Apart

theorem of_start (tree : FileTree) (minInterval : Nat) :
    Apart minInterval (World.start tree minInterval) [] where
  minInterval_eq := rfl
  spaced := ⟨nofun, nofun⟩
  late := by simp
  pairwise := .nil
  recorded := by simp
  about := nofun
  length_eq := rfl

theorem quiet {w' : World} (h : Apart minInterval w earlier)
    (ht : w'.loop.throttle = w.loop.throttle) (hs : w'.loop.Spaced w'.session.now)
    (hn : w.session.now ≤ w'.session.now)
    (hp : w'.loop.phase = .starting → w.loop.phase = .starting)
    (hr : w'.ledger.runs = w.ledger.runs) : Apart minInterval w' earlier where
  minInterval_eq := by rw [ht, h.minInterval_eq]
  spaced := hs
  late s hmem := ⟨(h.late s hmem).1, Nat.le_trans (h.late s hmem).2 hn⟩
  pairwise := h.pairwise
  recorded := by
    rw [ht]
    exact h.recorded
  about hstart := by
    rw [ht]
    obtain ⟨last, hl, hprec⟩ := h.about (hp hstart)
    exact ⟨last, hl, fun s hmem => ⟨(hprec s hmem).apart, (hprec s hmem).started_le⟩⟩
  length_eq := by rw [hr, h.length_eq]

theorem noted {w' : World} (h : Apart minInterval w earlier) (hp : w.loop.phase = .recording)
    (ht : w'.loop.throttle = w.loop.throttle.record w.session.now)
    (hs : w'.loop.Spaced w'.session.now) (hn : w'.session.now = w.session.now)
    (hr : w'.ledger.runs = w.ledger.runs) : Apart minInterval w' earlier := by
  have hlast : w'.loop.throttle.lastRun = some w.session.now := by rw [ht, Throttle.record]
  constructor
  case minInterval_eq =>
    rw [ht]
    exact h.minInterval_eq
  case spaced => exact hs
  case late =>
    rw [hn]
    exact h.late
  case pairwise => exact h.pairwise
  case recorded =>
    intro s hmem
    exact ⟨_, hlast, Nat.le_trans (h.late s hmem).1 (h.late s hmem).2⟩
  case about =>
    refine fun _ => ⟨_, hlast, fun s hmem => ⟨?_, (h.late s hmem).2⟩⟩
    obtain ⟨last, hl, hle⟩ := h.recorded s hmem
    have hapart := h.spaced.apart last hl _ (by rw [hp, Phase.earliest?])
    rw [h.minInterval_eq] at hapart
    exact Nat.le_trans (Nat.add_le_add_right hle _) hapart
  case length_eq => rw [hr, h.length_eq]

theorem started {w' : World} {last : Nat} (h : Apart minInterval w earlier)
    (hp : w.loop.phase = .starting) (hl : w.loop.throttle.lastRun = some last)
    (hp' : w'.loop.phase ≠ .starting) (ht : w'.loop.throttle = w.loop.throttle)
    (hs : w'.loop.Spaced w'.session.now) (hn : w'.session.now = w.session.now)
    (hr : w'.ledger.runs.length = w.ledger.runs.length + 1) :
    Apart minInterval w' (earlier ++ [⟨last, w.session.now⟩]) where
  minInterval_eq := by rw [ht, h.minInterval_eq]
  spaced := hs
  late := by
    rw [hn]
    intro s hmem
    rcases List.mem_append.mp hmem with hmem | hmem
    · exact h.late s hmem
    · rw [List.mem_singleton.mp hmem]
      exact ⟨h.spaced.past last hl, Nat.le_refl _⟩
  pairwise := by
    refine List.pairwise_append.mpr ⟨h.pairwise, List.pairwise_singleton _ _, ?_⟩
    intro s hmem t htime
    obtain ⟨last', hl', hprec⟩ := h.about hp
    rw [List.mem_singleton.mp htime, Option.some.inj (hl.symm.trans hl')]
    exact hprec s hmem
  recorded := by
    rw [ht]
    intro s hmem
    rcases List.mem_append.mp hmem with hmem | hmem
    · exact h.recorded s hmem
    · rw [List.mem_singleton.mp hmem]
      exact ⟨last, hl, Nat.le_refl _⟩
  about hstart := absurd hstart hp'
  length_eq := by rw [hr, List.length_append, h.length_eq, List.length_singleton]

theorem step (h : Apart minInterval w earlier) (job : Job) :
    Apart minInterval (w.step job) (earlier ++ (w.start? (.step job)).toList) := by
  rcases w.step_cases job with ⟨-, hn, he⟩ | ⟨next, hs, hl, hg, hnow⟩
  · have hp : w.loop.phase ≠ .starting := by
      intro hp
      simp [Loop.step?, hp] at hn
    rw [World.start?, if_neg hp, Option.toList_none, List.append_nil, he]
    exact h.quiet rfl h.spaced (Nat.le_refl _) id rfl
  · have hspaced : (w.step job).loop.Spaced (w.step job).session.now := by
      rw [hl, hnow]
      exact h.spaced.step hs
    rcases hs.record_or_start_or_quiet w.ledger with
      ⟨hp, -, ht, hr⟩ | ⟨hp, hp', ht, hr⟩ | ⟨hp, hp', ht, hr⟩
    · rw [World.start?, if_neg (by simp [hp]), Option.toList_none, List.append_nil]
      exact h.noted hp (by rw [hl, ht]) hspaced hnow (by rw [hg, hr])
    · obtain ⟨last, hlast, -⟩ := h.about hp
      rw [World.start?, if_pos hp, hlast, Option.map_some, Option.toList_some]
      exact h.started hp hlast (by rwa [hl]) (by rw [hl, ht]) hspaced hnow (by rw [hg, hr])
    · rw [World.start?, if_neg hp, Option.toList_none, List.append_nil]
      exact h.quiet (by rw [hl, ht]) hspaced (Nat.le_of_eq hnow.symm)
        (fun hstart => absurd (hl ▸ hstart) hp') (by rw [hg, hr])

theorem act (h : Apart minInterval w earlier) (a : Action) :
    Apart minInterval (w.act a) (earlier ++ (w.start? a).toList) := by
  cases a with
  | step job => exact h.step job
  | pass duration =>
    rw [World.start?, Option.toList_none, List.append_nil]
    exact h.quiet rfl (h.spaced.pass duration) (Nat.le_add_right _ _) id rfl
  | close =>
    rw [World.start?, Option.toList_none, List.append_nil]
    exact h.quiet rfl ⟨h.spaced.past, h.spaced.apart⟩ (Nat.le_refl _) id rfl
  | send =>
    rw [World.start?, Option.toList_none, List.append_nil, World.act, World.send]
    split
    · exact h.quiet rfl h.spaced (Nat.le_refl _) id rfl
    · exact h.quiet rfl ⟨h.spaced.past, h.spaced.apart⟩ (Nat.le_refl _) id rfl

theorem run (h : Apart minInterval w earlier) (actions : List Action) :
    Apart minInterval (w.run actions) (earlier ++ w.starts actions) := by
  induction actions generalizing w earlier with
  | nil => rwa [World.starts, List.append_nil]
  | cons a rest ih =>
    rw [World.starts, ← List.append_assoc]
    exact ih (h.act a)

end Apart

/-- The times that are recorded for two runs are at least the interval apart, and each run starts
between the time that is recorded for it and the next. What two runs may lack in distance when they
start is the delay of the earlier. -/
theorem starts_pairwise (tree : FileTree) (minInterval : Nat) (actions : List Action) :
    ((World.start tree minInterval).starts actions).length =
        ((World.start tree minInterval).run actions).ledger.runs.length ∧
      (∀ s ∈ (World.start tree minInterval).starts actions, s.recorded ≤ s.started) ∧
      ((World.start tree minInterval).starts actions).Pairwise fun s t =>
        s.recorded + minInterval ≤ t.recorded ∧ s.started ≤ t.recorded ∧
          s.started + minInterval ≤ t.started + (s.started - s.recorded) := by
  have h := (Apart.of_start tree minInterval).run actions
  rw [List.nil_append] at h
  refine ⟨h.length_eq, fun s hmem => (h.late s hmem).1, ?_⟩
  refine h.pairwise.imp_of_mem fun hs ht hprec => ⟨hprec.apart, hprec.started_le, ?_⟩
  have hapart := hprec.apart
  have hslate := (h.late _ hs).1
  have htlate := (h.late _ ht).1
  omega

/-- The first run is late, and the second is not. -/
theorem not_forall_started_apart : ¬ ∀ (tree : FileTree) (minInterval : Nat)
    (actions : List Action), ((World.start tree minInterval).starts actions).Pairwise
      fun s t => s.started + minInterval ≤ t.started := by
  intro h
  let step : Action := .step fun t => ⟨t, [], .finished 0⟩
  have hstarts : (World.start .empty 10).starts
      [.send, step, step, step, .pass 5, step, step, .send, step, .pass 5, step, step, step,
        step] = [⟨0, 5⟩, ⟨10, 10⟩] := by cbv
  have hapart := h .empty 10
    [.send, step, step, step, .pass 5, step, step, .send, step, .pass 5, step, step, step, step]
  rw [hstarts] at hapart
  exact absurd (List.rel_of_pairwise_cons hapart List.mem_cons_self) (by decide)

/-- The loop is no slower than it has to be. -/
example :
    let step : Action := .step fun t => ⟨t, [], .panicked "full"⟩
    (World.start .empty 10).starts
      [.send, step, step, step, step, .pass 3, .send, step, step, .pass 7, step, step, step, step] =
        [⟨0, 0⟩, ⟨10, 10⟩] := by cbv

end Runs

end ShellDocs.Watch
