import ShellDocs.Proofs.Watch.Progress

/-! # No change is lost and no run is idle

Whatever is sent and whenever, and however the runs end: each message that has left the queue is
covered by a run that starts after it was sent, and each run has a message of its own. The runs of
the ledger are the jobs that have been done.
-/

namespace ShellDocs.Watch

open Files

def Ending.notice : Ending → Notice
  | finished scripts => .regenerated scripts
  | failed e => .regenerationFailed e
  | panicked error => .regenerationPanicked error

def Outcome.notices (o : Outcome) : List Notice := .changeDetected :: o.log ++ [o.ending.notice]

/-- Each run of the ledger is a job that has been done, except that the job of the latest may still
be going on. -/
structure Executes (tree : FileTree) (w : World) : Prop where
  length_eq : w.ledger.runs.length =
    w.outcomes.length + if w.loop.phase = .running then 1 else 0
  log_eq : w.session.log = w.outcomes.flatMap Outcome.notices ++
    if w.loop.phase = .running then [.changeDetected] else []
  tree_eq : w.session.tree = (w.outcomes.getLast?.map Outcome.tree).getD tree

/-- What holds of a loop among its senders at any time. Runs stand in the ledger with the latest
first. -/
structure Covers (tree : FileTree) (w : World) : Prop extends Executes tree w where
  queued : w.ledger.queue.length = w.loop.queued
  /-- Each message is in one place, and messages are taken in the order in which they were sent. -/
  sent_eq : w.ledger.sent =
    w.ledger.runs.reverse.flatMap Run.messages ++ w.ledger.held ++ w.ledger.queue
  ascending : w.ledger.sent.Pairwise (· < ·)
  /-- A message that has left the queue was sent before the latest run started, or it is held for
  the run that is being prepared. -/
  covered : ∀ m ∈ w.ledger.sent, m ∉ w.ledger.queue →
    (∃ r, w.ledger.runs.head? = some r ∧ m < r.started) ∨
      m ∈ w.ledger.held ∧ w.loop.phase.IsPreparing
  /-- When the loop waits and the queue is empty, and when the loop has ended, the latest run
  started after every message that was ever sent. -/
  rest : w.loop.AtRest → ∀ m ∈ w.ledger.sent,
    ∃ r, w.ledger.runs.head? = some r ∧ m < r.started
  closed : w.loop.phase = .stopped → w.loop.closed = true
  /-- A run has messages, and all of them were sent after the queue was found empty before any run
  that went before. -/
  ne_nil : ∀ r ∈ w.ledger.runs, r.messages ≠ []
  fresh : w.ledger.runs.Pairwise fun later earlier => ∀ m ∈ later.messages, earlier.drained < m
  order : ∀ r ∈ w.ledger.runs, (∀ m ∈ r.messages, m < r.drained) ∧ r.drained < r.started
  length_le : w.ledger.runs.length ≤ w.ledger.sent.length
  /-- How a run ends makes no difference to the loop and its messages. -/
  ending : ∀ job job', (w.step job).loop = (w.step job').loop ∧
    (w.step job).ledger = (w.step job').ledger
  /-- If the loop is about to take a message and nothing is sent from then on, there is never more
  than one further run. There is one, and then the loop is at rest, if the loop is given steps as
  time goes on. -/
  one_more : w.loop.phase = .waiting → 0 < w.loop.queued →
    ∀ schedule : Schedule, (∀ n, schedule n ≠ .send) →
      (∀ k, (w.after schedule k).ledger.runs.length ≤ w.ledger.runs.length + 1) ∧
        (w.IsFair schedule → ∃ n, ∀ k ≥ n, (w.after schedule k).loop.AtRest ∧
          (w.after schedule k).ledger.runs.length = w.ledger.runs.length + 1)
  /-- Such schedules exist. -/
  fair : ∃ schedule, w.IsFair schedule ∧ ∀ n, schedule n ≠ .send

section Messages

variable {l : Loop} {g : Ledger} {m : Nat}

theorem Agrees.covered (h : Agrees l g) (hm : m ∈ g.sent) (hq : m ∉ g.queue) :
    (∃ r, g.runs.head? = some r ∧ m < r.started) ∨ m ∈ g.held ∧ l.phase.IsPreparing := by
  rw [h.sound.sent_eq, List.mem_append, List.mem_append] at hm
  rcases hm with (hm | hm) | hm
  · have hruns : m ∈ g.runs.flatMap Run.messages := by
      obtain ⟨r, hr, hm⟩ := List.mem_flatMap.mp hm
      exact List.mem_flatMap.mpr ⟨r, List.mem_reverse.mp hr, hm⟩
    cases hr : g.runs with
    | nil => simp [hr] at hruns
    | cons r rest => exact .inl ⟨r, rfl, h.sound.lt_started_head hr hruns⟩
  · exact .inr ⟨hm, h.preparing_iff.mpr (List.ne_nil_of_mem hm)⟩
  · exact absurd hm hq

theorem Agrees.rest (h : Agrees l g) (hr : l.AtRest) (hm : m ∈ g.sent) :
    ∃ r, g.runs.head? = some r ∧ m < r.started := by
  have hq : g.queue = [] := by
    rcases hr with ⟨-, hq⟩ | hp
    · exact h.queue_eq_nil hq
    · exact (h.stopped hp).2
  have hp : ¬ l.phase.IsPreparing := by
    rcases hr with ⟨hp, -⟩ | hp <;> simp [hp, Phase.IsPreparing]
  rcases h.covered hm (by simp [hq]) with hr | ⟨-, hprep⟩
  · exact hr
  · exact absurd hprep hp

end Messages

section Executions

variable {tree : FileTree} {w : World}

theorem Loop.afterRun_snd (l : Loop) (e : Ending) : (l.afterRun e).2 = e.notice := by
  cases e <;> rfl

theorem World.step_of_running (hp : w.loop.phase = .running) (job : Job) :
    w.step job =
      { session := w.session.endRun job
        ledger := w.ledger.tick
        outcomes := w.outcomes ++ [job w.session.tree] } := by
  rw [World.step, Session.step?_of_running hp]
  dsimp only
  rw [if_pos hp, hp]
  rfl

theorem World.step_of_starting (hp : w.loop.phase = .starting) (job : Job) :
    w.step job = { w with
      session := { w.session with
        loop := { w.loop with phase := .running }
        log := w.session.log ++ [.changeDetected] }
      ledger := w.ledger.start } := by
  rw [World.step, Session.step?_of_starting hp]
  dsimp only
  rw [if_neg (by simp [hp]), hp]
  rfl

/-- Only from the phase before it does the loop come to a run. -/
theorem Loop.Steps.phase_ne_running {l next : Loop} {now : Nat} (hs : l.Steps now next)
    (hp : l.phase ≠ .starting) : next.phase ≠ .running := by
  cases hs with
  | take _ _ => rcases l.afterMessage_cases now with ⟨wake, ha⟩ | ha <;> simp [ha]
  | drain hp _ => simp [hp]
  | start hp' => exact absurd hp' hp
  | _ => simp

theorem World.step_of_ne (hr : w.loop.phase ≠ .running) (hs : w.loop.phase ≠ .starting)
    (job : Job) :
    (w.step job).ledger.runs = w.ledger.runs ∧ (w.step job).outcomes = w.outcomes ∧
      (w.step job).session.log = w.session.log ∧ (w.step job).session.tree = w.session.tree ∧
      (w.step job).loop.phase ≠ .running := by
  rw [World.step, Session.step?_of_ne hr hs]
  cases hl : w.loop.step? w.session.now with
  | none => exact ⟨rfl, rfl, rfl, rfl, hr⟩
  | some next =>
    have hruns : (w.ledger.step w.loop.phase).runs = w.ledger.runs := by
      cases hp : w.loop.phase with
      | waiting | draining => exact runs_take w.ledger
      | starting => exact absurd hp hs
      | _ => rfl
    refine ⟨hruns, ?_, rfl, rfl, (Loop.steps_of_step? hl).phase_ne_running hs⟩
    simp only [Option.map_some, if_neg hr]

namespace Executes

theorem of_start (tree : FileTree) (interval : Nat) : Executes tree (World.start tree interval) :=
  ⟨rfl, rfl, rfl⟩

theorem quiet {w' : World} (h : Executes tree w) (hg : w'.ledger.runs = w.ledger.runs)
    (ho : w'.outcomes = w.outcomes) (hl : w'.session.log = w.session.log)
    (ht : w'.session.tree = w.session.tree)
    (hp : w'.loop.phase = .running ↔ w.loop.phase = .running) : Executes tree w' where
  length_eq := by simp only [hg, ho, hp, h.length_eq]
  log_eq := by simp only [hl, ho, hp, h.log_eq]
  tree_eq := by rw [ht, ho, h.tree_eq]

theorem ended (h : Executes tree w) (hp : w.loop.phase = .running) (job : Job) :
    Executes tree (w.step job) := by
  have hlength := h.length_eq
  have hlog := h.log_eq
  rw [if_pos hp] at hlength hlog
  rw [World.step_of_running hp]
  have hnext : (w.session.endRun job).loop.phase ≠ .running := by
    simp [Session.endRun, Loop.afterRun_fst]
  constructor
  case length_eq =>
    rw [if_neg hnext, List.length_append, List.length_singleton]
    exact hlength
  case log_eq =>
    rw [if_neg hnext, List.append_nil, List.flatMap_append, List.flatMap_singleton]
    simp [Session.endRun, Loop.afterRun_snd, hlog, Outcome.notices]
  case tree_eq =>
    rw [List.getLast?_concat]
    rfl

theorem started (h : Executes tree w) (hp : w.loop.phase = .starting) (job : Job) :
    Executes tree (w.step job) := by
  have hn : w.loop.phase ≠ .running := by simp [hp]
  have hlength := h.length_eq
  have hlog := h.log_eq
  rw [if_neg hn] at hlength hlog
  rw [World.step_of_starting hp]
  constructor
  case length_eq =>
    rw [if_pos rfl]
    exact congrArg Nat.succ hlength
  case log_eq =>
    rw [if_pos rfl, hlog, List.append_nil]
  case tree_eq => exact h.tree_eq

theorem act (h : Executes tree w) (action : Action) : Executes tree (w.act action) := by
  cases action with
  | send =>
    change Executes tree w.send
    unfold World.send
    split
    · exact h.quiet rfl rfl rfl rfl .rfl
    · exact h.quiet rfl rfl rfl rfl .rfl
  | close | pass _ => exact h.quiet rfl rfl rfl rfl .rfl
  | step job =>
    by_cases hr : w.loop.phase = .running
    · exact h.ended hr job
    by_cases hs : w.loop.phase = .starting
    · exact h.started hs job
    obtain ⟨hg, ho, hl, ht, hp⟩ := World.step_of_ne hr hs job
    exact h.quiet hg ho hl ht (iff_of_false hp hr)

theorem run (h : Executes tree w) (actions : List Action) : Executes tree (w.run actions) := by
  induction actions generalizing w with
  | nil => exact h
  | cons action actions ih => exact ih (h.act action)

end Executes

/-- How a run ends decides about the files and the log alone. -/
theorem World.step_eq (w : World) (job job' : Job) :
    (w.step job).loop = (w.step job').loop ∧ (w.step job).ledger = (w.step job').ledger := by
  by_cases hr : w.loop.phase = .running
  · rw [World.step_of_running hr, World.step_of_running hr]
    exact ⟨(Loop.afterRun_fst _ _).trans (Loop.afterRun_fst _ _).symm, rfl⟩
  by_cases hs : w.loop.phase = .starting
  · rw [World.step_of_starting hs, World.step_of_starting hs]
    exact ⟨rfl, rfl⟩
  · rw [World.step, World.step, Session.step?_of_ne hr hs, Session.step?_of_ne hr hs]
    cases w.loop.step? w.session.now with
    | none => exact ⟨rfl, rfl⟩
    | some next => exact ⟨rfl, rfl⟩

end Executions

theorem covers_run (tree : FileTree) (interval : Nat) (actions : List Action) :
    Covers tree ((World.start tree interval).run actions) := by
  have h := agrees_run tree interval actions
  have hexec := (Executes.of_start tree interval).run actions
  generalize (World.start tree interval).run actions = w at h hexec
  constructor
  case toExecutes => exact hexec
  case queued => exact h.queued
  case sent_eq => exact h.sound.sent_eq
  case ascending => exact h.sound.ascending
  case covered =>
    intro m hm hq
    exact h.covered hm hq
  case rest =>
    intro hr m hm
    exact h.rest hr hm
  case closed => exact fun hp => (h.stopped hp).1
  case ne_nil => exact h.sound.ne_nil
  case fresh => exact h.sound.fresh
  case order => exact fun r hr => ⟨h.sound.lt_drained r hr, h.sound.lt_started r hr⟩
  case length_le => exact h.sound.length_runs_le
  case ending => exact w.step_eq
  case one_more =>
    intro hp hq schedule hn
    have hdue : w.loop.due = 1 := by simp [Loop.due, hp, Nat.ne_of_gt hq]
    rw [← hdue]
    constructor
    · intro k
      have hk := World.due_after (w := w) hn k
      omega
    · intro hf
      exact World.exists_runs_eq hf hn
  case fair => exact ⟨steady fun t => ⟨t, [], .finished 0⟩, isFair_steady w _, steady_ne_send _⟩

example (job : Job) : ((World.start .empty 10).run
    [.send, .send, .send, .close, .step job, .step job, .step job, .step job, .step job,
      .step job, .step job]).ledger.runs = [⟨[0, 1, 2], 7, 9⟩] := rfl

end ShellDocs.Watch
