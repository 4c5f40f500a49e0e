import ShellDocs.Notice
import ShellDocs.Watch.Throttle

/-! # The regeneration loop

The loop waits for a message, sleeps until the throttle allows a run, takes all messages
that have come by then, records the time, starts the run, and waits for it to end. Messages
that come later lead to another run.
-/

namespace ShellDocs.Watch

/-- What the loop does. A sleep has a time at which it ends. Once the queue has been found empty
the time is recorded, and the run starts some time after that. -/
inductive Phase where
  | waiting
  | sleeping (wake : Nat)
  | draining
  | recording
  | starting
  | running
  | stopped
deriving DecidableEq

inductive Ending where
  | finished (scripts : Nat)
  | failed (e : Error)
  | panicked (error : String)

/-- The loop with the messages in its queue. No more messages come once it is closed. -/
structure Loop where
  throttle : Throttle
  phase : Phase := .waiting
  queued : Nat := 0
  closed : Bool := false
deriving DecidableEq

namespace Loop

def send (l : Loop) (messages : Nat) : Loop := { l with queued := l.queued + messages }

def close (l : Loop) : Loop := { l with closed := true }

/-- The phase after the first message of a burst has been taken. -/
def afterMessage (l : Loop) (now : Nat) : Phase :=
  match l.throttle.remaining now with
  | some d => .sleeping (now + d)
  | none => .draining

/-- One step of the loop at a time, unless it has to wait, as it does for a run to end. -/
def step? (l : Loop) (now : Nat) : Option Loop :=
  match l.phase with
  | .waiting =>
    if 0 < l.queued then
      some { l with queued := l.queued - 1, phase := l.afterMessage now }
    else if l.closed then some { l with phase := .stopped }
    else none
  | .sleeping wake => if wake ≤ now then some { l with phase := .draining } else none
  | .draining =>
    if 0 < l.queued then some { l with queued := l.queued - 1 }
    else some { l with phase := .recording }
  | .recording => some { l with throttle := l.throttle.record now, phase := .starting }
  | .starting => some { l with phase := .running }
  | .running | .stopped => none

/-- What the loop does next and what it reports when a run has ended. -/
def afterRun (l : Loop) : Ending → Loop × Notice
  | .finished scripts => ({ l with phase := .waiting }, .regenerated scripts)
  | .failed e => ({ l with phase := .waiting }, .regenerationFailed e)
  | .panicked error => ({ l with phase := .waiting }, .regenerationPanicked error)

end Loop

end ShellDocs.Watch
