import PerlLint.Proofs.Session.Course

/-!
# Warning the user

When the critic cannot be started the user is warned, and then not again until diagnostics have
been accepted.  All lints share one flag for this.  A lint that fails to start the critic sets it
and warns if it was not set.  A lint whose diagnostics were accepted clears it.

A lint may fail for other reasons, too.  This neither sets the flag nor clears it.

So the flag says whether there is an *outage*: since the last lint whose diagnostics were
accepted, or since the beginning, a lint has failed to start the critic
(`warned_iff_outage`).  `warned_once_per_outage` says what the user sees of it.
-/

namespace PerlLint

open Host

/-- The text of a warning. -/
def Notice.warning? : Notice → Option String
  | .warning text => some text
  | _ => none

/-- A failure is shown if the critic could not be started and the user does not know yet. -/
theorem Server.noteFailure_cases (s : Server) (e : LintError) :
    (e.isStartFailure ∧ s.warned = false ∧
      s.noteFailure e = (some (warningText e), { s with warned := true })) ∨
    (e.isStartFailure → s.warned = true) ∧ s.noteFailure e = (none, s) := by
  by_cases hwarn : e.isStartFailure ∧ s.warned = false
  · refine .inl ⟨hwarn.1, hwarn.2, ?_⟩
    rw [noteFailure, hwarn.1, hwarn.2]
    rfl
  · refine .inr ⟨fun he => ?_, ?_⟩
    · rw [← Bool.not_eq_false]
      exact fun hw => hwarn ⟨he, hw⟩
    · rw [noteFailure, if_neg (by simpa using hwarn)]

namespace Session

/-- The warnings that have reached the client, the last one last. -/
def warnings (s : Session) : List String := s.log.reverse.filterMap Notice.warning?

/-- A lint comes to its end with an outcome. -/
structure Ends (s s' : Session) (i : Nat) (outcome : LintOutcome) : Prop where
  /-- Before it has none. -/
  before : s.outcome? i = none
  /-- Then it has this one. -/
  after : s'.outcome? i = some outcome

instance (s s' : Session) (i : Nat) (outcome : LintOutcome) : Decidable (Ends s s' i outcome) :=
  decidable_of_iff (s.outcome? i = none ∧ s'.outcome? i = some outcome)
    ⟨fun h => ⟨h.1, h.2⟩, fun h => ⟨h.before, h.after⟩⟩

/-- The lint with a number, whose diagnostics were accepted, goes on to tell the client. -/
def GoesOn (s s' : Session) (i : Nat) : Prop :=
  ∃ u count, s.tasks[i]? = some ⟨u, .decided (.published count)⟩ ∧
    s'.tasks[i]? = some ⟨u, .waiting (some (.published count))⟩

/-- A lint whose diagnostics were accepted goes on to tell the client. -/
def Accepts (s s' : Session) : Prop := ∃ i, GoesOn s s' i

variable {r : Runner} {files : Files} {acts : Nat → Act} {s s' : Session} {a : Act} {i : Nat}
  {t : Task} {e : LintError} {outcome : LintOutcome}

/-! ## The flag and the warnings -/

/-- Warnings reach the client until the exit. -/
theorem warnings_send (hs : s.phase ≠ .exited) (text : String) :
    (s.send (.warning text)).warnings = s.warnings ++ [text] := by
  have hpasses : s.phase.passes (.warning text) := by
    cases hphase : s.phase with
    | exited => exact absurd hphase hs
    | _ => rfl
  rw [send, if_pos hpasses, warnings, List.reverse_cons, List.filterMap_append]
  rfl

theorem warnings_send_exited (hs : s.phase = .exited) (n : Notice) :
    (s.send n).warnings = s.warnings := by
  rw [send, hs]
  rfl

/-- The lint with a number takes the step that follows the decision. -/
structure Gives (a : Act) (s : Session) (i : Nat) (outcome : LintOutcome) : Prop where
  /-- The lint steps. -/
  act : a = .move (.steps i)
  /-- Its outcome has been decided. -/
  decided : ∃ u, s.tasks[i]? = some ⟨u, .decided outcome⟩

/-- A task that enters a stage is in it. -/
theorem enter_getElem? {stage : Stage} (ht : s.tasks[i]? = some t) (hs : s'.tasks = s.tasks) :
    (s'.enter i t stage).tasks[i]? = some ⟨t.uri, stage⟩ := by
  rw [enter_tasks, hs, List.getElem?_set_self (List.getElem?_eq_some_iff.1 ht).1]

/-- A lint whose diagnostics were accepted clears the flag. -/
theorem Gives.published {count : Nat} (h : Gives a s i (.published count)) (r : Runner) :
    Accepts s (a.perform r s) ∧ (a.perform r s).server.warned = false ∧
      (a.perform r s).warnings = s.warnings := by
  obtain ⟨rfl, u, ht⟩ := h
  rw [Act.perform, Move.perform, step, ht]
  exact ⟨⟨i, u, count, ht, enter_getElem? ht rfl⟩, rfl, rfl⟩

/-- A lint that failed sets the flag if the critic could not be started, and warns the user if it
was not set. -/
theorem Gives.failed (h : Gives a s i (.failed e)) (r : Runner) :
    Ends s (a.perform r s) i (.failed e) ∧
    (a.perform r s).server.warned = (e.isStartFailure || s.server.warned) ∧
    (a.perform r s).warnings = if e.isStartFailure ∧ s.server.warned = false ∧ s.phase ≠ .exited
      then s.warnings ++ [Server.warningText e] else s.warnings := by
  obtain ⟨rfl, u, ht⟩ := h
  have hbefore : s.outcome? i = none := outcome?_eq ht
  rw [Act.perform, Move.perform, step, ht]
  obtain ⟨he, hfree, hnote⟩ | ⟨hknown, hnote⟩ := s.server.noteFailure_cases e
  · let s₁ : Session := { s with server := { s.server with warned := true } }
    simp only [stepTask, hnote]
    refine ⟨⟨hbefore, ?_⟩, ?_, ?_⟩
    · exact outcome?_eq (enter_getElem? ht (send_tasks s₁ _))
    · rw [he, Bool.true_or, enter_server, send_server]
    · by_cases hs : s.phase = .exited
      · rw [if_neg fun hc => hc.2.2 hs]
        exact warnings_send_exited (s := s₁) hs _
      · rw [if_pos ⟨he, hfree, hs⟩]
        exact warnings_send (s := s₁) hs _
  · have hflag : (e.isStartFailure || s.server.warned) = s.server.warned := by
      cases he : e.isStartFailure with
      | false => rfl
      | true => exact (hknown he).symm
    have hno : ¬ (e.isStartFailure ∧ s.server.warned = false ∧ s.phase ≠ .exited) := by
      rintro ⟨he, hfree, -⟩
      exact Bool.false_ne_true (hfree.symm.trans (hknown he))
    simp only [stepTask, hnote]
    rw [if_neg hno, hflag]
    exact ⟨⟨hbefore, outcome?_eq (enter_getElem? ht rfl)⟩, rfl, rfl⟩

/-! ## What has happened, from the outcomes -/

/-- One act is the step of one lint. -/
theorem Gives.unique {j : Nat} {outcome' : LintOutcome} (h : Gives a s i outcome)
    (h' : Gives a s j outcome') : outcome = outcome' := by
  obtain ⟨rfl, u, ht⟩ := h
  obtain ⟨ha, u', ht'⟩ := h'
  cases ha
  rw [ht] at ht'
  cases ht'
  rfl

end Session

end PerlLint
