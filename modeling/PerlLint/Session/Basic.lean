import PerlLint.Server.Lint

/-!
# Sessions

In a session the server works on several tasks at once.  A task is a lint, or the
rest of a close: the document is closed already, and the client has to be told.

A task goes through stages, and each step from one stage to the next happens at
once.  The steps of different tasks may come in any order.  So a task takes its
ticket, runs the critic, offers the result to the store and tells the client in
steps between which others may come.

The client is told about a document by one task at a time: it takes the *gate*,
reads the store, sends what it has read, and opens the gate again.

Diagnostics reach the client only after the session has been initialized.  Other
messages reach it from the beginning.  After the exit nothing does.

Input and output may fail for a while.  As long as they do no critic can be read from or
waited for: the lint whose turn it is to do so ends with an error, and its critic is
stopped.
-/

namespace PerlLint

open Host

/-! ## Messages to the client -/

/-- A message to the client. -/
inductive Notice where
  /-- The diagnostics of a document. -/
  | diagnostics (u : Uri) (ds : List Diagnostic)
  /-- A warning for the user. -/
  | warning (text : String)
  /-- A line for the log. -/
  | log (text : String)
deriving DecidableEq

/-- How far a session is. -/
inductive Phase where
  /-- Nothing has been agreed upon. -/
  | fresh
  /-- The session has been initialized. -/
  | ready
  /-- The client has asked for the end. -/
  | shutDown
  /-- The session is over. -/
  | exited
deriving Repr, DecidableEq

/-- Whether a message reaches the client in a phase. -/
def Phase.passes : Phase → Notice → Bool
  | .ready, _ | .shutDown, _ => true
  | .fresh, .diagnostics _ _ => false
  | .fresh, _ => true
  | .exited, _ => false

/-! ## Tasks -/

/-- How far a task is. -/
inductive Stage where
  /-- A lint is asked for. -/
  | requested (language : Option String)
  /-- The lint has its ticket. -/
  | admitted (job : Job)
  /-- The critic sleeps. -/
  | running (job : Job) (wake : Files → Activity (Files × Output))
  /-- The critic is done. -/
  | ended (job : Job) (result : Except LintError (List Record))
  /-- The store has decided. -/
  | decided (outcome : LintOutcome)
  /-- The client has to be told.  The outcome is that of the lint, if it is one. -/
  | waiting (outcome : Option LintOutcome)
  /-- The task has the gate. -/
  | atGate (outcome : Option LintOutcome)
  /-- The task has the gate, and has read the store. -/
  | holding (ds : List Diagnostic) (outcome : Option LintOutcome)
  /-- The task has the gate, and the client has been told. -/
  | sent (outcome : Option LintOutcome)
  /-- The task is over. -/
  | finished (outcome : Option LintOutcome)

/-- A task. -/
structure Task where
  /-- The document. -/
  uri : Uri
  /-- How far it is. -/
  stage : Stage

/-- The outcome of a task that is over. -/
def Task.outcome? (t : Task) : Option LintOutcome :=
  match t.stage with
  | .finished o => o
  | _ => none

/-- Whether a task is over. -/
def Task.isOver (t : Task) : Bool :=
  match t.stage with
  | .finished _ => true
  | _ => false

/-! ## Sessions -/

/-- The state of a session. -/
structure Session where
  /-- How far it is. -/
  phase : Phase
  /-- The server. -/
  server : Server
  /-- The task that has the gate, by its number. -/
  gate : Option Nat
  /-- The tasks, by their numbers. -/
  tasks : List Task
  /-- The files of the machine. -/
  files : Files
  /-- Why input and output fail at the moment, if they do. -/
  fault : Option String
  /-- The messages that have reached the client, last first. -/
  log : List Notice

namespace Session

/-- A session at first. -/
def new (files : Files) : Session := ⟨.fresh, .empty, none, [], files, none, []⟩

/-- Sends a message to the client. -/
def send (s : Session) (n : Notice) : Session :=
  if s.phase.passes n then { s with log := n :: s.log } else s

/-- Adds a task.  Its number is the number of tasks before it. -/
def spawn (s : Session) (u : Uri) (stage : Stage) : Session :=
  { s with tasks := s.tasks ++ [⟨u, stage⟩] }

/-- Brings a task to a stage. -/
def enter (s : Session) (i : Nat) (t : Task) (stage : Stage) : Session :=
  { s with tasks := s.tasks.set i { t with stage } }

/-! What each of these leaves alone. -/

section

variable (s : Session) (n : Notice) (u : Uri) (stage : Stage) (i : Nat) (t : Task)

@[simp] theorem send_phase : (s.send n).phase = s.phase := by unfold send; split <;> rfl
@[simp] theorem send_server : (s.send n).server = s.server := by unfold send; split <;> rfl
@[simp] theorem send_gate : (s.send n).gate = s.gate := by unfold send; split <;> rfl
@[simp] theorem send_tasks : (s.send n).tasks = s.tasks := by unfold send; split <;> rfl

@[simp] theorem spawn_server : (s.spawn u stage).server = s.server := rfl
@[simp] theorem spawn_tasks : (s.spawn u stage).tasks = s.tasks ++ [⟨u, stage⟩] := rfl

@[simp] theorem enter_server : (s.enter i t stage).server = s.server := rfl
@[simp] theorem enter_tasks : (s.enter i t stage).tasks = s.tasks.set i ⟨t.uri, stage⟩ := rfl

end

/-- Follows the course of the critic up to its next sleep or its end, or gives it up if
input and output fail. -/
def follow (s : Session) (i : Nat) (t : Task) (job : Job)
    (course : Activity (Files × Output)) : Session :=
  match s.fault with
  | some reason => s.enter i t (.ended job (.error (.stream reason)))
  | none =>
      match course with
      | .done (files, out) => { s with files }.enter i t (.ended job (.ok out.records))
      | .asleep files wake => { s with files }.enter i t (.running job wake)

@[simp] theorem follow_server (s : Session) (i : Nat) (t : Task) (job : Job)
    (course : Activity (Files × Output)) : (s.follow i t job course).server = s.server := by
  unfold follow
  split
  · rfl
  · cases course <;> rfl

/-- One step of a task. -/
def stepTask (r : Runner) (s : Session) (i : Nat) (t : Task) : Session :=
  match t.stage with
  | .requested language =>
      match s.server.startLint language t.uri with
      | .error why => s.enter i t (.finished (some (.skipped why)))
      | .ok (job, server) => { s with server }.enter i t (.admitted job)
  | .admitted job =>
      match r.start s.files job.invocation with
      | .error e => s.enter i t (.ended job (.error e))
      | .ok course => s.follow i t job course
  | .running job wake => s.follow i t job (wake s.files)
  | .ended job result =>
      let (outcome, server) := s.server.settle job result
      { s with server }.enter i t (.decided outcome)
  | .decided outcome =>
      match outcome with
      | .published _ =>
          { s with server := s.server.rearm }.enter i t (.waiting (some outcome))
      | .failed e =>
          match s.server.noteFailure e with
          | (some text, server) =>
              ({ s with server }.send (.warning text)).enter i t (.finished (some outcome))
          | (none, server) => { s with server }.enter i t (.finished (some outcome))
      | _ => s.enter i t (.finished (some outcome))
  | .waiting o =>
      match s.gate with
      | some _ => s
      | none => { s with gate := some i }.enter i t (.atGate o)
  | .atGate o => s.enter i t (.holding ((s.server.store.get? t.uri).getD []) o)
  | .holding ds o => (s.send (.diagnostics t.uri ds)).enter i t (.sent o)
  | .sent o => { s with gate := none }.enter i t (.finished o)
  | .finished _ => s

/-- One step of the task with a number. -/
def step (r : Runner) (s : Session) (i : Nat) : Session :=
  match s.tasks[i]? with
  | some t => s.stepTask r i t
  | none => s

end Session

end PerlLint
