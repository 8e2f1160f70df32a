import PerlLint.Session.Basic

/-!
# What a step does

A step brings one task from its stage to the next, and does something to the rest of the
session at the same time.  `Advance` lists what that can be, with one rule for each kind of
step.  `step_cases` says that there is nothing else: a step that does not advance its task
leaves the session as it is.

Everything that is proved about sessions by induction on their steps goes over these rules.
-/

namespace PerlLint

/-- Whether the store has accepted diagnostics. -/
def LintOutcome.isPublished : LintOutcome → Bool
  | .published _ => true
  | _ => false

/-- What a lint goes by from its ticket to the decision of the store. -/
def Stage.job? : Stage → Option Job
  | .admitted job | .running job _ | .ended job _ => some job
  | _ => none

namespace Session

open Host

/-- The session after the task `t`, which is the one with the number `i`, has advanced. -/
inductive Advance (s : Session) (i : Nat) (t : Task) : Session → Prop where
  | skip {language : Option String} {why : SkipReason} :
    t.stage = .requested language →
    Advance s i t (s.enter i t (.finished (some (.skipped why))))
  | start {language : Option String} {job : Job} {server : Server} :
    t.stage = .requested language →
    s.server.startLint language t.uri = .ok (job, server) →
    Advance s i t ({ s with server }.enter i t (.admitted job))
  | run {job : Job} {stage : Stage} (files : Files) :
    t.stage.job? = some job →
    stage.job? = some job →
    Advance s i t ({ s with files }.enter i t stage)
  | settle {job : Job} {result : Except LintError (List Record)} :
    t.stage = .ended job result →
    Advance s i t ({ s with server := (s.server.settle job result).2 }.enter i t
      (.decided (s.server.settle job result).1))
  | rearm {outcome : LintOutcome} :
    t.stage = .decided outcome →
    outcome.isPublished →
    Advance s i t ({ s with server := s.server.rearm }.enter i t (.waiting (some outcome)))
  | drop {outcome : LintOutcome} :
    t.stage = .decided outcome →
    outcome.isPublished = false →
    Advance s i t (s.enter i t (.finished (some outcome)))
  | fail {outcome : LintOutcome} {server : Server} :
    t.stage = .decided outcome →
    outcome.isPublished = false →
    server.store = s.server.store →
    Advance s i t ({ s with server }.enter i t (.finished (some outcome)))
  | warn {outcome : LintOutcome} {server : Server} (text : String) :
    t.stage = .decided outcome →
    outcome.isPublished = false →
    server.store = s.server.store →
    Advance s i t (({ s with server }.send (.warning text)).enter i t
      (.finished (some outcome)))
  | lock {o : Option LintOutcome} :
    t.stage = .waiting o →
    s.gate = none →
    Advance s i t ({ s with gate := some i }.enter i t (.atGate o))
  | read {o : Option LintOutcome} :
    t.stage = .atGate o →
    Advance s i t (s.enter i t (.holding ((s.server.store.get? t.uri).getD []) o))
  | tell {ds : List Diagnostic} {o : Option LintOutcome} :
    t.stage = .holding ds o →
    Advance s i t ((s.send (.diagnostics t.uri ds)).enter i t (.sent o))
  | release {o : Option LintOutcome} :
    t.stage = .sent o →
    Advance s i t ({ s with gate := none }.enter i t (.finished o))

/-- Only the task that advances gets to another stage. -/
theorem Advance.exists_tasks_eq {s s' : Session} {i : Nat} {t : Task} (h : Advance s i t s') :
    ∃ stage, s'.tasks = s.tasks.set i ⟨t.uri, stage⟩ := by
  cases h with
  | warn _ _ _ _ | tell _ => exact ⟨_, by rw [enter_tasks, send_tasks]⟩
  | _ => exact ⟨_, rfl⟩

/-- No step brings the session to another phase. -/
theorem Advance.phase_eq {s s' : Session} {i : Nat} {t : Task} (h : Advance s i t s') :
    s'.phase = s.phase := by
  cases h with
  | warn _ _ _ _ | tell _ => simp [enter]
  | _ => rfl

/-- The course of the critic is followed without a change to anything but the files. -/
theorem advance_follow {s : Session} {t : Task} {job : Job} (i : Nat)
    (h : t.stage.job? = some job) (course : Activity (Files × Output)) :
    Advance s i t (s.follow i t job course) := by
  unfold follow
  split
  case h_1 reason _ => exact .run s.files h rfl
  case h_2 =>
    cases course with
    | done end_ => exact .run end_.1 h rfl
    | asleep files wake => exact .run files h rfl

/-- A decision is followed by a notice to the client, or by the end. -/
theorem advance_decided {s : Session} {t : Task} {outcome : LintOutcome} (r : Runner) (i : Nat)
    (h : t.stage = .decided outcome) : Advance s i t (s.stepTask r i t) := by
  rw [stepTask, h]
  cases outcome with
  | skipped why => exact .drop h rfl
  | published count => exact .rearm h rfl
  | stale => exact .drop h rfl
  | closed => exact .drop h rfl
  | failed e =>
      have hstore := s.server.noteFailure_store e
      dsimp only
      split
      case h_1 text server he =>
        rw [he] at hstore
        exact .warn text h rfl hstore
      case h_2 server he =>
        rw [he] at hstore
        exact .fail h rfl hstore

/-- A step of a task advances it, unless it has to wait or is over. -/
theorem stepTask_cases (r : Runner) (s : Session) (i : Nat) (t : Task) :
    s.stepTask r i t = s ∨ Advance s i t (s.stepTask r i t) := by
  cases h : t.stage with
  | requested language =>
      right
      rw [stepTask, h]
      dsimp only
      split
      case h_1 why _ => exact .skip h
      case h_2 job server hs => exact .start h hs
  | admitted job =>
      right
      have hj : t.stage.job? = some job := by rw [h]; rfl
      rw [stepTask, h]
      dsimp only
      split
      case h_1 e _ => exact .run s.files hj rfl
      case h_2 course _ => exact advance_follow i hj course
  | running job wake =>
      right
      rw [stepTask, h]
      exact advance_follow i (by rw [h]; rfl) _
  | ended job result =>
      right
      rw [stepTask, h]
      exact .settle h
  | decided outcome => exact .inr (advance_decided r i h)
  | waiting o =>
      rw [stepTask, h]
      dsimp only
      split
      case h_1 => exact .inl rfl
      case h_2 hg => exact .inr (.lock h hg)
  | atGate o =>
      right
      rw [stepTask, h]
      exact .read h
  | holding ds o =>
      right
      rw [stepTask, h]
      exact .tell h
  | sent o =>
      right
      rw [stepTask, h]
      exact .release h
  | finished o =>
      left
      rw [stepTask, h]

/-- A step advances a task, or nothing happens. -/
theorem step_cases (r : Runner) (s : Session) (i : Nat) :
    s.step r i = s ∨ ∃ t, s.tasks[i]? = some t ∧ Advance s i t (s.step r i) := by
  unfold step
  split
  case h_1 t ht => exact (s.stepTask_cases r i t).imp_right fun ha => ⟨t, ht, ha⟩
  case h_2 => exact .inl rfl

end Session

end PerlLint
