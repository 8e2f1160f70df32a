import PerlLint.Session.Basic

/-!
# Driving tasks

The steps of a session's tasks may come in any order.  Here is one order in which
they do.  A task is driven from step to step until it is over, its critic sleeps,
or it waits for the gate.  A *round* does so with every task once, which also wakes
up every critic that sleeps.

How many rounds there are is bounded, because a critic may sleep on for ever.

A lint that is asked for is under way before long.  `beginAll` brings the session to
where all of them are: they have their tickets, and their critics have been started.
-/

namespace PerlLint.Session

/-- Whether a task cannot go on by itself. -/
def rests (s : Session) (i : Nat) : Bool :=
  match s.tasks[i]? with
  | none => true
  | some t =>
      match t.stage with
      | .finished _ | .running _ _ => true
      | .waiting _ => s.gate.isSome
      | _ => false

/-- The number of stages that a task goes through at most. -/
def stageBound : Nat := 10

/-- Drives a task on, at most `n` steps more. -/
def driveFrom (r : Runner) (i : Nat) : (n : Nat) → Session → Session
  | 0, s => s
  | n + 1, s => if s.rests i then s else driveFrom r i n (s.step r i)

/-- Drives a task until it is over, sleeps or waits.  One that sleeps is woken up
first. -/
def drive (r : Runner) (s : Session) (i : Nat) : Session :=
  driveFrom r i stageBound (s.step r i)

/-- Drives every task once. -/
def round (r : Runner) (s : Session) : Session :=
  (List.range s.tasks.length).foldl (drive r) s

/-- Drives all tasks until `stop` holds, at most `n` rounds. -/
def driveUntil (r : Runner) (stop : Session → Bool) : (n : Nat) → Session → Session
  | 0, s => s
  | n + 1, s => if stop s then s else driveUntil r stop n (s.round r)

/-- Whether all tasks are over. -/
def allOver (s : Session) : Bool := s.tasks.all Task.isOver

/-- Whether a task is over. -/
def isOver (i : Nat) (s : Session) : Bool :=
  match s.tasks[i]? with
  | some t => t.isOver
  | none => true

/-- The greatest number of rounds. -/
def roundBound : Nat := 100000

/-- Drives all tasks to their ends. -/
def settleAll (r : Runner) (s : Session) : Session := driveUntil r allOver roundBound s

/-- Whether a lint has not called its critic yet. -/
def isToBegin (s : Session) (i : Nat) : Bool :=
  match s.tasks[i]? with
  | some ⟨_, .requested _⟩ | some ⟨_, .admitted _⟩ => true
  | _ => false

/-- Begins a lint, if it has not begun. -/
def beginTask (r : Runner) (s : Session) (i : Nat) : Session :=
  let step (s : Session) : Session := if s.isToBegin i then s.step r i else s
  step (step s)

/-- Begins every lint that has been asked for. -/
def beginAll (r : Runner) (s : Session) : Session :=
  (List.range s.tasks.length).foldl (beginTask r) s

/-- Drives one task to its end, and leaves the others where they are. -/
def finishFrom (r : Runner) (i : Nat) : (n : Nat) → Session → Session
  | 0, s => s
  | n + 1, s => if isOver i s then s else finishFrom r i n (s.drive r i)

/-- Drives one task to its end, and gives its outcome if it is a lint. -/
def finishTask (r : Runner) (s : Session) (i : Nat) : Option LintOutcome × Session :=
  let s := finishFrom r i roundBound s
  ((s.tasks[i]?).bind Task.outcome?, s)

/-- Lints a document from the beginning to the end. -/
def lint (r : Runner) (s : Session) (u : Uri) (language : Option String) :
    Option LintOutcome × Session :=
  (s.spawn u (.requested language)).finishTask r s.tasks.length

end PerlLint.Session
