import ShellDocs.Watch.Loop

/-! # Where the messages of the loop are

The loop counts its messages and does not tell them apart. A ledger does: it knows each message by
the moment at which it was sent, and says whether the message is in the queue, is held for the run
that is being prepared, or belongs to a run. No step loses one.
-/

namespace ShellDocs.Watch

/-- The messages of a run, the moment at which the queue was found empty before it, and the moment
at which it started. -/
structure Run where
  messages : List Nat
  drained : Nat
  started : Nat

/-- The latest run stands first. -/
structure Ledger where
  moment : Nat := 0
  sent : List Nat := []
  queue : List Nat := []
  held : List Nat := []
  drained : Nat := 0
  runs : List Run := []

namespace Ledger

def tick (g : Ledger) : Ledger := { g with moment := g.moment + 1 }

def send (g : Ledger) : Ledger :=
  { g with
    moment := g.moment + 1
    sent := g.sent ++ [g.moment]
    queue := g.queue ++ [g.moment] }

def take (g : Ledger) : Ledger :=
  match g.queue with
  | m :: rest => { g with moment := g.moment + 1, queue := rest, held := g.held ++ [m] }
  | [] => { g with moment := g.moment + 1, drained := g.moment }

def start (g : Ledger) : Ledger :=
  { g with
    moment := g.moment + 1
    held := []
    runs := ⟨g.held, g.drained, g.moment⟩ :: g.runs }

/-- What becomes of the messages when the loop takes a step from a phase. -/
def step (g : Ledger) : Phase → Ledger
  | .waiting | .draining => g.take
  | .starting => g.start
  | _ => g.tick

theorem take_of_cons {g : Ledger} {m : Nat} {rest : List Nat} (h : g.queue = m :: rest) :
    g.take = { g with moment := g.moment + 1, queue := rest, held := g.held ++ [m] } := by
  unfold take
  rw [h]

theorem take_of_nil {g : Ledger} (h : g.queue = []) :
    g.take = { g with moment := g.moment + 1, drained := g.moment } := by
  unfold take
  rw [h]

end Ledger

section Sound

/-- Every message is in one place, runs have messages, and what a run takes was sent after the
queue was found empty before the run that went before. -/
structure Ledger.Sound (g : Ledger) : Prop where
  sent_eq : g.sent = g.runs.reverse.flatMap Run.messages ++ g.held ++ g.queue
  ascending : g.sent.Pairwise (· < ·)
  past : ∀ m ∈ g.sent, m < g.moment
  ne_nil : ∀ r ∈ g.runs, r.messages ≠ []
  lt_drained : ∀ r ∈ g.runs, ∀ m ∈ r.messages, m < r.drained
  lt_started : ∀ r ∈ g.runs, r.drained < r.started
  lt_moment : ∀ r ∈ g.runs, r.drained < g.moment
  fresh : g.runs.Pairwise fun later earlier => ∀ m ∈ later.messages, earlier.drained < m
  unseen : ∀ r ∈ g.runs, ∀ m ∈ g.held ++ g.queue, r.drained < m

/-- The messages held for a run were sent before the queue was found empty, and those in the queue
after it. -/
structure Ledger.Drained (g : Ledger) : Prop where
  lt_moment : g.drained < g.moment
  held : ∀ m ∈ g.held, m < g.drained
  queue : ∀ m ∈ g.queue, g.drained < m

variable {g : Ledger}

namespace Ledger.Sound

theorem empty : Sound {} := by
  constructor <;> simp

theorem tick (h : g.Sound) : g.tick.Sound where
  sent_eq := h.sent_eq
  ascending := h.ascending
  past m hm := Nat.lt_succ_of_lt (h.past m hm)
  ne_nil := h.ne_nil
  lt_drained := h.lt_drained
  lt_started := h.lt_started
  lt_moment r hr := Nat.lt_succ_of_lt (h.lt_moment r hr)
  fresh := h.fresh
  unseen := h.unseen

theorem send (h : g.Sound) : g.send.Sound where
  sent_eq := by
    change g.sent ++ [g.moment] =
      g.runs.reverse.flatMap Run.messages ++ g.held ++ (g.queue ++ [g.moment])
    rw [h.sent_eq, List.append_assoc _ g.queue]
  ascending := by
    refine List.pairwise_append.mpr ⟨h.ascending, List.pairwise_singleton _ _, ?_⟩
    intro m hm n hn
    rw [List.mem_singleton.mp hn]
    exact h.past m hm
  past := by
    intro m hm
    rcases List.mem_append.mp hm with hm | hm
    · exact Nat.lt_succ_of_lt (h.past m hm)
    · rw [List.mem_singleton.mp hm]
      exact Nat.lt_succ_self _
  ne_nil := h.ne_nil
  lt_drained := h.lt_drained
  lt_started := h.lt_started
  lt_moment r hr := Nat.lt_succ_of_lt (h.lt_moment r hr)
  fresh := h.fresh
  unseen := by
    intro r hr m hm
    change m ∈ g.held ++ (g.queue ++ [g.moment]) at hm
    rw [← List.append_assoc] at hm
    rcases List.mem_append.mp hm with hm | hm
    · exact h.unseen r hr m hm
    · rw [List.mem_singleton.mp hm]
      exact h.lt_moment r hr

theorem take (h : g.Sound) : g.take.Sound := by
  cases hq : g.queue with
  | nil =>
    rw [take_of_nil hq]
    exact { h.tick with }
  | cons m rest =>
    rw [take_of_cons hq]
    refine { h.tick with sent_eq := ?_, unseen := ?_ }
    · rw [h.sent_eq, hq]
      simp
    · intro r hr n hn
      refine h.unseen r hr n ?_
      rw [hq]
      simpa using hn

theorem start (h : g.Sound) (hd : g.Drained) (hn : g.held ≠ []) : g.start.Sound where
  sent_eq := by
    change g.sent = ((_ :: g.runs).reverse.flatMap Run.messages) ++ [] ++ g.queue
    rw [h.sent_eq, List.reverse_cons, List.flatMap_append, List.flatMap_singleton, List.append_nil]
  ascending := h.ascending
  past m hm := Nat.lt_succ_of_lt (h.past m hm)
  ne_nil := by
    intro r hr
    rcases List.mem_cons.mp hr with rfl | hr
    · exact hn
    · exact h.ne_nil r hr
  lt_drained := by
    intro r hr
    rcases List.mem_cons.mp hr with rfl | hr
    · exact hd.held
    · exact h.lt_drained r hr
  lt_started := by
    intro r hr
    rcases List.mem_cons.mp hr with rfl | hr
    · exact hd.lt_moment
    · exact h.lt_started r hr
  lt_moment := by
    intro r hr
    rcases List.mem_cons.mp hr with rfl | hr
    · exact Nat.lt_succ_of_lt hd.lt_moment
    · exact Nat.lt_succ_of_lt (h.lt_moment r hr)
  fresh := by
    refine List.pairwise_cons.mpr ⟨fun r hr m hm => ?_, h.fresh⟩
    exact h.unseen r hr m (List.mem_append_left _ hm)
  unseen := by
    intro r hr m hm
    have hm : m ∈ g.queue := hm
    rcases List.mem_cons.mp hr with rfl | hr
    · exact hd.queue m hm
    · exact h.unseen r hr m (List.mem_append_right _ hm)

/-- What belongs to a run was sent before the latest run started. -/
theorem lt_started_head {r : Run} {rest : List Run} (h : g.Sound) (hr : g.runs = r :: rest)
    {m : Nat} (hm : m ∈ g.runs.flatMap Run.messages) : m < r.started := by
  have hmem : r ∈ g.runs := by simp [hr]
  have hstart : ∀ n ∈ r.messages, n < r.started := fun n hn =>
    Nat.lt_trans (h.lt_drained r hmem n hn) (h.lt_started r hmem)
  obtain ⟨s, hs, hm⟩ := List.mem_flatMap.mp hm
  rw [hr] at hs
  rcases List.mem_cons.mp hs with rfl | hs
  · exact hstart m hm
  · -- the latest run has a message, which was sent after the queue was emptied for `s`
    obtain ⟨n, hn⟩ := List.exists_mem_of_ne_nil _ (h.ne_nil r hmem)
    have hfresh := h.fresh
    rw [hr] at hfresh
    calc
      m < s.drained := h.lt_drained s (by simp [hr, hs]) m hm
      _ < n := (List.pairwise_cons.mp hfresh).1 s hs n hn
      _ < r.started := hstart n hn

theorem length_runs_le (h : g.Sound) : g.runs.length ≤ g.sent.length := by
  have hone : ∀ runs : List Run, (∀ r ∈ runs, r.messages ≠ []) →
      runs.length ≤ (runs.flatMap Run.messages).length := by
    intro runs hne
    induction runs with
    | nil => simp
    | cons r runs ih =>
      have hr : 0 < r.messages.length := List.length_pos_iff.mpr (hne r List.mem_cons_self)
      have ih := ih fun s hs => hne s (List.mem_cons_of_mem r hs)
      rw [List.flatMap_cons, List.length_append, List.length_cons]
      omega
  have hrev := hone g.runs.reverse fun r hr => h.ne_nil r (List.mem_reverse.mp hr)
  rw [h.sent_eq, List.length_append, List.length_append]
  rw [List.length_reverse] at hrev
  omega

end Ledger.Sound

end Sound

end ShellDocs.Watch
