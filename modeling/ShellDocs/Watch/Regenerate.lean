import ShellDocs.Generate
import ShellDocs.Watch.Loop

/-! # Regenerating on change

The loop together with the file tree that its runs work on.
-/

namespace ShellDocs.Watch

open Files

/-- What a run leaves. -/
structure Outcome where
  tree : FileTree
  log : List Notice
  ending : Ending

/-- What is run on a change. -/
abbrev Job := FileTree → Outcome

/-- The job of the loop is to generate the documentation. -/
def regenerate (options : GenerateOptions) : Job := fun t =>
  let o := generate t options
  { tree := o.tree
    log := o.log
    ending := match o.result with
      | .ok report => .finished report.scripts.length
      | .error e => .failed e }

structure Session where
  loop : Loop
  tree : FileTree
  now : Nat := 0
  log : List Notice := []

namespace Session

/-- The run that is going on takes place and ends. -/
def endRun (job : Job) (s : Session) : Session :=
  let o := job s.tree
  let (next, notice) := s.loop.afterRun o.ending
  { s with loop := next, tree := o.tree, log := s.log ++ o.log ++ [notice] }

/-- A step at the present time. -/
def step? (job : Job) (s : Session) : Option Session :=
  match s.loop.phase with
  | .running => some (s.endRun job)
  | .starting => (s.loop.step? s.now).map fun next =>
      { s with loop := next, log := s.log ++ [.changeDetected] }
  | _ => (s.loop.step? s.now).map fun next => { s with loop := next }

/-- Lets time pass until the loop may go on. -/
def wake (s : Session) : Session :=
  match s.loop.phase with
  | .sleeping wake => { s with now := max s.now wake }
  | _ => s

def settleWith (job : Job) : Nat → Session → Session
  | 0, s => s
  | fuel + 1, s =>
    match s.wake.step? job with
    | some next => settleWith job fuel next
    | none => s

/-- Goes on until the loop waits for messages. A burst takes one step for each message and
at most five more. -/
def settle (job : Job) (s : Session) : Session := settleWith job (s.loop.queued + 5) s

/-- Queues messages at once and waits for the run that they lead to. -/
def burst (options : GenerateOptions) (s : Session) (messages : Nat) : Session :=
  { s with loop := s.loop.send messages }.settle (regenerate options)

end Session

end ShellDocs.Watch
