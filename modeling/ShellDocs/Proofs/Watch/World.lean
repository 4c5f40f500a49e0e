import ShellDocs.Proofs.Watch.Ledger
import ShellDocs.Watch.Regenerate

/-! # The loop among its senders

Between any two steps of the loop a message may be sent, the last sender may go away, and time may
pass. Whatever the order of all this, the loop agrees with the ledger of its messages.
-/

namespace ShellDocs.Watch

open Files

section Loop

/-- Messages are held for the run that comes next. -/
def Phase.IsPreparing : Phase → Prop
  | .sleeping _ | .draining | .recording | .starting => True
  | .waiting | .running | .stopped => False

/-- All that a step of the loop, or the end of a run, can do to the loop. -/
inductive Loop.Steps (l : Loop) (now : Nat) : Loop → Prop where
  | take : l.phase = .waiting → 0 < l.queued →
      Loop.Steps l now { l with queued := l.queued - 1, phase := l.afterMessage now }
  | stop : l.phase = .waiting → l.queued = 0 → l.closed →
      Loop.Steps l now { l with phase := .stopped }
  | wake {wake : Nat} : l.phase = .sleeping wake → wake ≤ now →
      Loop.Steps l now { l with phase := .draining }
  | drain : l.phase = .draining → 0 < l.queued →
      Loop.Steps l now { l with queued := l.queued - 1 }
  | drained : l.phase = .draining → l.queued = 0 →
      Loop.Steps l now { l with phase := .recording }
  | record : l.phase = .recording →
      Loop.Steps l now { l with throttle := l.throttle.record now, phase := .starting }
  | start : l.phase = .starting → Loop.Steps l now { l with phase := .running }
  | finish : l.phase = .running → Loop.Steps l now { l with phase := .waiting }

variable {l next : Loop} {now : Nat}

theorem Loop.steps_of_step? (h : l.step? now = some next) : l.Steps now next := by
  unfold Loop.step? at h
  split at h
  · rename_i hp
    split at h
    · cases h
      exact .take hp ‹_›
    · split at h
      · cases h
        exact .stop hp (by omega) ‹_›
      · cases h
  · rename_i hp
    split at h
    · cases h
      exact .wake hp ‹_›
    · cases h
  · rename_i hp
    split at h
    · cases h
      exact .drain hp ‹_›
    · cases h
      exact .drained hp (by omega)
  · rename_i hp
    cases h
    exact .record hp
  · rename_i hp
    cases h
    exact .start hp
  · cases h
  · cases h

theorem Loop.afterRun_fst (l : Loop) (e : Ending) :
    (l.afterRun e).1 = { l with phase := .waiting } := by
  cases e <;> rfl

theorem Loop.afterMessage_cases (l : Loop) (now : Nat) :
    (∃ wake, l.afterMessage now = .sleeping wake) ∨ l.afterMessage now = .draining := by
  unfold Loop.afterMessage
  split
  · exact .inl ⟨_, rfl⟩
  · exact .inr rfl

end Loop

section Agreement

/-- A loop and the ledger of its messages. -/
structure Agrees (l : Loop) (g : Ledger) : Prop where
  sound : g.Sound
  queued : g.queue.length = l.queued
  preparing_iff : l.phase.IsPreparing ↔ g.held ≠ []
  drained : l.phase = .recording ∨ l.phase = .starting → g.Drained
  stopped : l.phase = .stopped → l.closed = true ∧ g.queue = []

variable {l next : Loop} {g : Ledger} {now : Nat}

namespace Agrees

theorem tick (h : Agrees l g) : Agrees l g.tick where
  sound := h.sound.tick
  queued := h.queued
  preparing_iff := h.preparing_iff
  drained hp := { h.drained hp with lt_moment := Nat.lt_succ_of_lt (h.drained hp).lt_moment }
  stopped := h.stopped

theorem send (h : Agrees l g) (hc : l.closed = false) : Agrees (l.send 1) g.send where
  sound := h.sound.send
  queued := by
    change (g.queue ++ [g.moment]).length = l.queued + 1
    rw [List.length_append, h.queued, List.length_singleton]
  preparing_iff := h.preparing_iff
  drained := by
    intro hp
    have hd := h.drained hp
    refine ⟨Nat.lt_succ_of_lt hd.lt_moment, hd.held, fun m hm => ?_⟩
    rcases List.mem_append.mp hm with hm | hm
    · exact hd.queue m hm
    · rw [List.mem_singleton.mp hm]
      exact hd.lt_moment
  stopped := by
    intro hp
    rw [(h.stopped hp).1] at hc
    cases hc

theorem close (h : Agrees l g) : Agrees l.close g.tick where
  sound := h.sound.tick
  queued := h.queued
  preparing_iff := h.preparing_iff
  drained := h.tick.drained
  stopped hp := ⟨rfl, (h.stopped hp).2⟩

theorem held_eq_nil (h : Agrees l g) (hp : ¬ l.phase.IsPreparing) : g.held = [] := by
  cases hh : g.held with
  | nil => rfl
  | cons m rest => exact absurd (h.preparing_iff.mpr (by simp [hh])) hp

theorem queue_eq_nil (h : Agrees l g) (hq : l.queued = 0) : g.queue = [] :=
  List.eq_nil_of_length_eq_zero (by rw [h.queued, hq])

theorem taken {p : Phase} (h : Agrees l g) (hq : 0 < l.queued) (hp : p.IsPreparing)
    (hs : ¬ (p = .recording ∨ p = .starting)) :
    Agrees { l with queued := l.queued - 1, phase := p } g.take := by
  have hlen := h.queued
  have hsound := h.sound.take
  cases hm : g.queue with
  | nil =>
    rw [hm, List.length_nil] at hlen
    omega
  | cons m rest =>
    rw [hm, List.length_cons] at hlen
    rw [Ledger.take_of_cons hm] at hsound ⊢
    constructor
    case sound => exact hsound
    case queued =>
      change rest.length = l.queued - 1
      omega
    case preparing_iff => exact ⟨fun _ => by simp, fun _ => hp⟩
    case drained => exact fun hstart => absurd hstart hs
    case stopped =>
      intro hstop
      have hstop : p = .stopped := hstop
      subst hstop
      exact hp.elim

theorem emptied (h : Agrees l g) (hq : l.queued = 0) (hp : l.phase.IsPreparing) :
    Agrees { l with phase := .recording } g.take := by
  have hn := h.queue_eq_nil hq
  have hsound := h.sound.take
  have hpast : ∀ m ∈ g.held, m < g.moment := by
    intro m hm
    refine h.sound.past m ?_
    rw [h.sound.sent_eq]
    simp [hm]
  rw [Ledger.take_of_nil hn] at hsound ⊢
  constructor
  case sound => exact hsound
  case queued => exact h.queued
  case preparing_iff => exact ⟨fun _ => h.preparing_iff.mp hp, fun _ => trivial⟩
  case drained =>
    refine fun _ => ⟨Nat.lt_succ_self _, hpast, fun m hm => ?_⟩
    have hm : m ∈ g.queue := hm
    rw [hn] at hm
    cases hm
  case stopped => exact fun hstop => nomatch hstop

theorem ended (h : Agrees l g) (hq : l.queued = 0) (hp : ¬ l.phase.IsPreparing)
    (hc : l.closed = true) : Agrees { l with phase := .stopped } g.take := by
  have hn := h.queue_eq_nil hq
  have hsound := h.sound.take
  rw [Ledger.take_of_nil hn] at hsound ⊢
  constructor
  case sound => exact hsound
  case queued => exact h.queued
  case preparing_iff =>
    constructor
    · exact fun hprep => hprep.elim
    · exact fun hheld => absurd (h.held_eq_nil hp) hheld
  case drained => simp
  case stopped => exact fun _ => ⟨hc, hn⟩

theorem recorded {throttle : Throttle} (h : Agrees l g) (hp : l.phase = .recording) :
    Agrees { l with throttle := throttle, phase := .starting } g.tick where
  sound := h.sound.tick
  queued := h.queued
  preparing_iff := ⟨fun _ => h.preparing_iff.mp (by simp [hp, Phase.IsPreparing]), fun _ => trivial⟩
  drained _ := h.tick.drained (.inl hp)
  stopped := nofun

theorem started (h : Agrees l g) (hp : l.phase = .starting) :
    Agrees { l with phase := .running } g.start where
  sound :=
    h.sound.start (h.drained (.inr hp)) (h.preparing_iff.mp (by simp [hp, Phase.IsPreparing]))
  queued := h.queued
  preparing_iff := ⟨fun hprep => hprep.elim, fun hheld => absurd rfl hheld⟩
  drained := by simp
  stopped := nofun

theorem passed {p : Phase} (h : Agrees l g) (hp : p.IsPreparing ↔ l.phase.IsPreparing)
    (hs : ¬ (p = .recording ∨ p = .starting)) (ht : p ≠ .stopped) :
    Agrees { l with phase := p } g.tick where
  sound := h.sound.tick
  queued := h.queued
  preparing_iff := hp.trans h.preparing_iff
  drained hdrained := absurd hdrained hs
  stopped hstop := absurd hstop ht

/-- What a step of the loop does to its messages. -/
theorem step (h : Agrees l g) (hs : l.Steps now next) : Agrees next (g.step l.phase) := by
  cases hs with
  | take hp hq =>
    rw [hp]
    rcases l.afterMessage_cases now with ⟨wake, ha⟩ | ha
    · rw [ha]
      exact h.taken hq trivial (by simp)
    · rw [ha]
      exact h.taken hq trivial (by simp)
  | stop hp hq hc =>
    rw [hp]
    exact h.ended hq (by simp [hp, Phase.IsPreparing]) hc
  | wake hp _ =>
    rw [hp]
    exact h.passed (by simp [hp, Phase.IsPreparing]) (by simp) (by simp)
  | drain hp hq =>
    rw [hp]
    exact h.taken hq trivial (by simp)
  | drained hp hq =>
    rw [hp]
    exact h.emptied hq (by simp [hp, Phase.IsPreparing])
  | record hp =>
    rw [hp]
    exact h.recorded hp
  | start hp =>
    rw [hp]
    exact h.started hp
  | finish hp =>
    rw [hp]
    exact h.passed (by simp [hp, Phase.IsPreparing]) (by simp) (by simp)

end Agrees

end Agreement

section Runs

/-- A loop at work, the ledger of its messages, and what its runs have left so far. -/
structure World where
  session : Session
  ledger : Ledger
  outcomes : List Outcome

/-- What can happen next: a message is sent, the last sender goes away, time passes, or the loop
takes a step. A run that ends in this step is a run of the job. -/
inductive Action where
  | send
  | close
  | pass (duration : Nat)
  | step (job : Job)

namespace World

def start (tree : FileTree) (interval : Nat) : World where
  session := { loop := { throttle := { minInterval := interval } }, tree := tree }
  ledger := {}
  outcomes := []

abbrev loop (w : World) : Loop := w.session.loop

/-- There is nobody to send once the last sender is gone. -/
def send (w : World) : World :=
  if w.loop.closed then { w with ledger := w.ledger.tick }
  else { w with
    session := { w.session with loop := w.loop.send 1 }
    ledger := w.ledger.send }

def step (w : World) (job : Job) : World :=
  match w.session.step? job with
  | some next =>
    { session := next
      ledger := w.ledger.step w.loop.phase
      outcomes :=
        if w.loop.phase = .running then w.outcomes ++ [job w.session.tree] else w.outcomes }
  | none => { w with ledger := w.ledger.tick }

def act (w : World) : Action → World
  | .send => w.send
  | .close => { w with
      session := { w.session with loop := w.loop.close }
      ledger := w.ledger.tick }
  | .pass duration => { w with
      session := { w.session with now := w.session.now + duration }
      ledger := w.ledger.tick }
  | .step job => w.step job

def run (w : World) (actions : List Action) : World := actions.foldl act w

end World

/-! A job decides about files and notices. The loop steps by itself. -/

section Session

variable {s : Session}

theorem Session.step?_of_running (hp : s.loop.phase = .running) (job : Job) :
    s.step? job = some (s.endRun job) := by
  rw [Session.step?, hp]

theorem Session.step?_of_starting (hp : s.loop.phase = .starting) (job : Job) :
    s.step? job = some { s with
      loop := { s.loop with phase := .running }
      log := s.log ++ [.changeDetected] } := by
  rw [Session.step?, hp]
  dsimp only
  rw [Loop.step?, hp]
  rfl

theorem Session.step?_of_ne (hr : s.loop.phase ≠ .running) (hs : s.loop.phase ≠ .starting)
    (job : Job) :
    s.step? job = (s.loop.step? s.now).map fun next => { s with loop := next } := by
  unfold Session.step?
  split
  · exact absurd ‹_› hr
  · exact absurd ‹_› hs
  · rfl

end Session

theorem World.step_cases (w : World) (job : Job) :
    (w.loop.phase ≠ .running ∧ w.loop.step? w.session.now = none ∧
        w.step job = { w with ledger := w.ledger.tick }) ∨
      ∃ next, w.loop.Steps w.session.now next ∧ (w.step job).loop = next ∧
        (w.step job).ledger = w.ledger.step w.loop.phase ∧
        (w.step job).session.now = w.session.now := by
  unfold World.step
  by_cases hr : w.loop.phase = .running
  · rw [Session.step?_of_running hr]
    exact .inr ⟨_, .finish hr, Loop.afterRun_fst _ _, rfl, rfl⟩
  by_cases hs : w.loop.phase = .starting
  · rw [Session.step?_of_starting hs]
    exact .inr ⟨_, .start hs, rfl, rfl, rfl⟩
  rw [Session.step?_of_ne hr hs]
  cases hl : w.loop.step? w.session.now with
  | none => exact .inl ⟨hr, rfl, rfl⟩
  | some next => exact .inr ⟨next, Loop.steps_of_step? hl, rfl, rfl, rfl⟩

variable {w : World}

theorem Agrees.act (h : Agrees w.loop w.ledger) (action : Action) :
    Agrees (w.act action).loop (w.act action).ledger := by
  cases action with
  | send =>
    change Agrees w.send.loop w.send.ledger
    unfold World.send
    split
    · exact h.tick
    · rename_i hc
      exact h.send (by simpa using hc)
  | close => exact h.close
  | pass duration => exact h.tick
  | step job =>
    change Agrees (w.step job).loop (w.step job).ledger
    rcases w.step_cases job with ⟨-, -, he⟩ | ⟨next, hs, hl, hg, -⟩
    · rw [he]
      exact h.tick
    · rw [hl, hg]
      exact h.step hs

theorem Agrees.run (h : Agrees w.loop w.ledger) (actions : List Action) :
    Agrees (w.run actions).loop (w.run actions).ledger := by
  induction actions generalizing w with
  | nil => exact h
  | cons action actions ih => exact ih (h.act action)

theorem agrees_run (tree : FileTree) (interval : Nat) (actions : List Action) :
    Agrees ((World.start tree interval).run actions).loop
      ((World.start tree interval).run actions).ledger := by
  have hstart : Agrees (World.start tree interval).loop (World.start tree interval).ledger :=
    ⟨.empty, rfl, ⟨fun hp => hp.elim, fun hn => absurd rfl hn⟩, nofun, nofun⟩
  exact hstart.run actions

end Runs

end ShellDocs.Watch
