import Mathlib.Data.Nat.Init
import ShellDocs.Proofs.Watch.World

/-! # Runs that follow

While nothing is sent, the runs that have started and the runs that are due are constant in number.
A loop that is given steps comes to rest as time goes on, and then no run is due.
-/

namespace ShellDocs.Watch

section Due

/-- The loop waits for a message and there is none, or it has ended. -/
def Loop.AtRest (l : Loop) : Prop := l.phase = .waiting ∧ l.queued = 0 ∨ l.phase = .stopped

/-- The number of runs that will start if nothing more is sent. -/
def Loop.due (l : Loop) : Nat :=
  let queued := if l.queued = 0 then 0 else 1
  match l.phase with
  | .waiting | .running => queued
  | .sleeping _ | .draining => 1
  | .recording | .starting => queued + 1
  | .stopped => 0

/-- A bound on the steps that the loop takes until it is at rest. -/
def Loop.distance (l : Loop) : Nat :=
  let queued := if l.queued = 0 then 0 else l.queued + 6
  match l.phase with
  | .waiting => queued
  | .sleeping _ => l.queued + 5
  | .draining => l.queued + 4
  | .recording => queued + 3
  | .starting => queued + 2
  | .running => queued + 1
  | .stopped => 0

/-- The time from which the loop can take its next step. -/
def Loop.ready (l : Loop) : Nat :=
  match l.phase with
  | .sleeping wake => wake
  | _ => 0

variable {l next : Loop} {g : Ledger} {now : Nat}

/-! Phase and queue decide about all this. -/

section Congr

variable {l' : Loop} (hp : l'.phase = l.phase) (hq : l'.queued = l.queued)

include hp hq

theorem Loop.atRest_congr : l'.AtRest ↔ l.AtRest := by rw [Loop.AtRest, Loop.AtRest, hp, hq]

theorem Loop.due_congr : l'.due = l.due := by rw [Loop.due, Loop.due, hp, hq]

theorem Loop.distance_congr : l'.distance = l.distance := by
  rw [Loop.distance, Loop.distance, hp, hq]

end Congr

theorem Loop.AtRest.due_eq_zero (h : l.AtRest) : l.due = 0 := by
  rcases h with ⟨hp, hq⟩ | hp
  · simp [Loop.due, hp, hq]
  · simp [Loop.due, hp]

theorem runs_take (g : Ledger) : g.take.runs = g.runs := by
  unfold Ledger.take
  split <;> rfl

theorem Loop.Steps.due_add (hs : l.Steps now next) (g : Ledger) :
    (g.step l.phase).runs.length + next.due = g.runs.length + l.due := by
  cases hs with
  | take hp hq =>
    rcases l.afterMessage_cases now with ⟨wake, ha⟩ | ha
    · simp [Ledger.step, Loop.due, hp, ha, runs_take, Nat.ne_of_gt hq]
    · simp [Ledger.step, Loop.due, hp, ha, runs_take, Nat.ne_of_gt hq]
  | stop hp hq _ => simp [Ledger.step, Loop.due, hp, hq, runs_take]
  | wake hp _ => simp [Ledger.step, Loop.due, hp, Ledger.tick]
  | drain hp _ => simp [Ledger.step, Loop.due, hp, runs_take]
  | drained hp hq => simp [Ledger.step, Loop.due, hp, hq, runs_take]
  | record hp => simp [Ledger.step, Loop.due, hp, Ledger.tick]
  | start hp =>
    simp only [Ledger.step, Ledger.start, Loop.due, hp, List.length_cons]
    omega
  | finish hp => simp [Ledger.step, Loop.due, hp, Ledger.tick]

theorem Loop.Steps.distance_lt (hs : l.Steps now next) (hr : ¬ l.AtRest) :
    next.distance < l.distance := by
  cases hs with
  | take hp hq =>
    rcases l.afterMessage_cases now with ⟨wake, ha⟩ | ha
    · simp only [Loop.distance, hp, ha]
      split <;> omega
    · simp only [Loop.distance, hp, ha]
      split <;> omega
  | stop hp hq _ => exact absurd (.inl ⟨hp, hq⟩) hr
  | wake hp _ => simp [Loop.distance, hp]
  | drain hp hq =>
    simp only [Loop.distance, hp]
    omega
  | drained hp hq => simp [Loop.distance, hp, hq]
  | record hp => simp [Loop.distance, hp]
  | start hp => simp [Loop.distance, hp]
  | finish hp => simp [Loop.distance, hp]

theorem Loop.Steps.atRest (hs : l.Steps now next) (hr : l.AtRest) : next.AtRest := by
  rcases hr with ⟨hw, hq⟩ | hstop
  · cases hs with
    | stop _ _ _ => exact .inr rfl
    | take _ hq' => omega
    | _ hp => simp [hp] at hw
  · cases hs with
    | _ hp => simp [hp] at hstop

theorem Loop.exists_step? (hr : ¬ l.AtRest) (hn : l.phase ≠ .running) (ht : l.ready ≤ now) :
    ∃ next, l.step? now = some next := by
  cases hp : l.phase with
  | waiting =>
    have hq : 0 < l.queued := Nat.pos_of_ne_zero fun hq => hr (.inl ⟨hp, hq⟩)
    simp [Loop.step?, hp, hq]
  | sleeping wake =>
    have hw : wake ≤ now := by simpa [Loop.ready, hp] using ht
    simp [Loop.step?, hp, hw]
  | draining =>
    by_cases hq : 0 < l.queued <;> simp [Loop.step?, hp, hq]
  | recording | starting => simp [Loop.step?, hp]
  | running => exact absurd hp hn
  | stopped => exact absurd (.inr hp) hr

end Due

section Schedules

/-- What happens, one action after the other and without end. -/
abbrev Schedule := Nat → Action

namespace World

def after (w : World) (schedule : Schedule) : Nat → World
  | 0 => w
  | n + 1 => (w.after schedule n).act (schedule n)

/-- The loop is given a step again and again, and time goes on. -/
def IsFair (w : World) (schedule : Schedule) : Prop :=
  ∀ n time, ∃ k ≥ n, (∃ job, schedule k = .step job) ∧ time ≤ (w.after schedule k).session.now

end World

variable {w : World} {a : Action} {schedule : Schedule}

/-- An action that sends nothing is a step of the loop or leaves it where it is. -/
theorem World.act_cases (ha : a ≠ .send) :
    (∃ now, w.loop.Steps now (w.act a).loop ∧ (w.act a).ledger = w.ledger.step w.loop.phase) ∨
      (w.act a).loop.phase = w.loop.phase ∧ (w.act a).loop.queued = w.loop.queued ∧
        (w.act a).ledger = w.ledger.tick := by
  cases a with
  | send => exact absurd rfl ha
  | close => exact .inr ⟨rfl, rfl, rfl⟩
  | pass duration => exact .inr ⟨rfl, rfl, rfl⟩
  | step job =>
    rcases w.step_cases job with ⟨-, -, he⟩ | ⟨next, hs, hl, hg, -⟩
    · rw [World.act, he]
      exact .inr ⟨rfl, rfl, rfl⟩
    · rw [World.act, hl, hg]
      exact .inl ⟨_, hs, rfl⟩

theorem World.due_act (ha : a ≠ .send) :
    (w.act a).ledger.runs.length + (w.act a).loop.due = w.ledger.runs.length + w.loop.due := by
  rcases w.act_cases ha with ⟨now, hs, hl⟩ | ⟨hp, hq, hl⟩
  · rw [hl, hs.due_add]
  · rw [hl, Loop.due_congr hp hq]
    rfl

theorem World.atRest_act (ha : a ≠ .send) (hr : w.loop.AtRest) : (w.act a).loop.AtRest := by
  rcases w.act_cases ha with ⟨now, hs, -⟩ | ⟨hp, hq, -⟩
  · exact hs.atRest hr
  · exact (Loop.atRest_congr hp hq).mpr hr

/-- While nothing is sent, the runs that have started and those that are due are constant in
number. -/
theorem World.due_after (hn : ∀ n, schedule n ≠ .send) (n : Nat) :
    (w.after schedule n).ledger.runs.length + (w.after schedule n).loop.due =
      w.ledger.runs.length + w.loop.due := by
  induction n with
  | zero => rfl
  | succ n ih => exact (World.due_act (hn n)).trans ih

theorem World.atRest_after (hn : ∀ n, schedule n ≠ .send) {n k : Nat} (hk : n ≤ k)
    (hr : (w.after schedule n).loop.AtRest) : (w.after schedule k).loop.AtRest := by
  induction k, hk using Nat.le_induction with
  | base => exact hr
  | succ k _ ih => exact World.atRest_act (hn k) ih

theorem World.nearer_or_same (hn : ∀ n, schedule n ≠ .send) {n k : Nat} (hk : n ≤ k)
    (hr : ¬ (w.after schedule n).loop.AtRest) :
    (∃ i ≤ k, (w.after schedule i).loop.distance < (w.after schedule n).loop.distance) ∨
      (w.after schedule k).loop.phase = (w.after schedule n).loop.phase ∧
        (w.after schedule k).loop.queued = (w.after schedule n).loop.queued := by
  induction k, hk using Nat.le_induction with
  | base => exact .inr ⟨rfl, rfl⟩
  | succ k _ ih =>
    rcases ih with ⟨i, hi, hlt⟩ | ⟨hp, hq⟩
    · exact .inl ⟨i, Nat.le_succ_of_le hi, hlt⟩
    · rcases (w.after schedule k).act_cases (hn k) with ⟨now, hs, -⟩ | ⟨hp', hq', -⟩
      · have hlt := hs.distance_lt ((not_congr (Loop.atRest_congr hp hq)).mpr hr)
        rw [Loop.distance_congr hp hq] at hlt
        exact .inl ⟨k + 1, Nat.le_refl _, hlt⟩
      · exact .inr ⟨hp'.trans hp, hq'.trans hq⟩

theorem World.exists_nearer (hf : w.IsFair schedule) (hn : ∀ n, schedule n ≠ .send) {n : Nat}
    (hr : ¬ (w.after schedule n).loop.AtRest) :
    ∃ k, (w.after schedule k).loop.distance < (w.after schedule n).loop.distance := by
  obtain ⟨k, hk, ⟨job, hjob⟩, htime⟩ := hf n (w.after schedule n).loop.ready
  rcases World.nearer_or_same hn hk hr with ⟨i, -, hlt⟩ | ⟨hp, hq⟩
  · exact ⟨i, hlt⟩
  · have hrk := (not_congr (Loop.atRest_congr hp hq)).mpr hr
    have hready : (w.after schedule k).loop.ready ≤ (w.after schedule k).session.now := by
      rwa [Loop.ready, hp]
    refine ⟨k + 1, ?_⟩
    rw [World.after, hjob, World.act, ← Loop.distance_congr hp hq]
    rcases (w.after schedule k).step_cases job with ⟨hrun, hnone, -⟩ | ⟨next, hs, hl, -⟩
    · obtain ⟨next, hnext⟩ := Loop.exists_step? hrk hrun hready
      rw [hnone] at hnext
      cases hnext
    · rw [hl]
      exact hs.distance_lt hrk

theorem World.exists_atRest (hf : w.IsFair schedule) (hn : ∀ n, schedule n ≠ .send) :
    ∃ n, (w.after schedule n).loop.AtRest := by
  apply Classical.byContradiction
  intro hnone
  have hr : ∀ n, ¬ (w.after schedule n).loop.AtRest := not_exists.mp hnone
  have hfar : ∀ d n, (w.after schedule n).loop.distance ≠ d := by
    intro d
    induction d using Nat.strongRecOn with
    | ind d ih =>
      intro n hd
      obtain ⟨k, hk⟩ := World.exists_nearer hf hn (hr n)
      exact ih _ (hd ▸ hk) k rfl
  exact hfar _ 0 rfl

/-- If nothing more is sent, the loop comes to rest after the runs that are due. -/
theorem World.exists_runs_eq (hf : w.IsFair schedule) (hn : ∀ n, schedule n ≠ .send) :
    ∃ n, ∀ k ≥ n, (w.after schedule k).loop.AtRest ∧
      (w.after schedule k).ledger.runs.length = w.ledger.runs.length + w.loop.due := by
  obtain ⟨n, hrest⟩ := World.exists_atRest hf hn
  refine ⟨n, fun k hk => ?_⟩
  have hrest := World.atRest_after hn hk hrest
  refine ⟨hrest, ?_⟩
  have hdue := World.due_after (w := w) hn k
  rwa [hrest.due_eq_zero, Nat.add_zero] at hdue

end Schedules

section Fairness

/-- A schedule by which time passes between any two steps of the loop. -/
def steady (job : Job) : Schedule := fun n => if n % 2 = 0 then .pass 1 else .step job

theorem World.now_step (w : World) (job : Job) : (w.step job).session.now = w.session.now := by
  rcases w.step_cases job with ⟨-, -, he⟩ | ⟨next, -, -, -, hnow⟩
  · rw [he]
  · exact hnow

theorem now_after_steady (w : World) (job : Job) (n : Nat) :
    (w.after (steady job) (2 * n)).session.now = w.session.now + n := by
  induction n with
  | zero => rfl
  | succ n ih =>
    have hpass : steady job (2 * n) = .pass 1 := if_pos (by omega)
    have hstep : steady job (2 * n + 1) = .step job := if_neg (by omega)
    change ((w.after (steady job) (2 * n + 1)).act (steady job (2 * n + 1))).session.now = _
    rw [hstep, World.act, World.now_step, World.after, hpass]
    change (w.after (steady job) (2 * n)).session.now + 1 = _
    rw [ih, Nat.add_assoc]

theorem isFair_steady (w : World) (job : Job) : w.IsFair (steady job) := by
  intro n time
  have hpass : steady job (2 * (n + time)) = .pass 1 := if_pos (by omega)
  refine ⟨2 * (n + time) + 1, by omega, ⟨job, if_neg (by omega)⟩, ?_⟩
  rw [World.after, hpass]
  change time ≤ (w.after (steady job) (2 * (n + time))).session.now + 1
  rw [now_after_steady]
  omega

theorem steady_ne_send (job : Job) (n : Nat) : steady job n ≠ .send := by
  unfold steady
  split <;> simp

end Fairness

end ShellDocs.Watch
