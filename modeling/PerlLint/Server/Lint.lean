import PerlLint.Run
import PerlLint.Server.Basic

/-!
# Linting a document

A lint begins with three questions: is the document Perl, is linting on, and does
the document name a file?  If any answer is no the lint is skipped, for the first
reason in this order.  Otherwise it takes a ticket, and what it needs is fixed
then: the configuration and the invocation (`startLint`).

When the critic is done its diagnostics are offered to the store (`settle`).  A
lint whose diagnostics are accepted shows that the critic can be started, so the
user is warned again at the next failure to start it (`rearm`).  A failure to start
it is shown once until then (`noteFailure`).
-/

namespace PerlLint

/-- Why a document is not linted. -/
inductive SkipReason where
  /-- It is not Perl. -/
  | notPerl
  /-- Linting is off. -/
  | disabled
  /-- It names no file. -/
  | notAFile
deriving Repr, DecidableEq

/-- How a lint ends. -/
inductive LintOutcome where
  /-- The critic was not run. -/
  | skipped (why : SkipReason)
  /-- The store accepted so many diagnostics. -/
  | published (count : Nat)
  /-- A newer lint was accepted first. -/
  | stale
  /-- The document was closed. -/
  | closed
  /-- The critic could not be run. -/
  | failed (e : LintError)
deriving DecidableEq

/-- What a lint needs once it is admitted. -/
structure Job where
  /-- Its ticket. -/
  ticket : Ticket
  /-- The configuration. -/
  config : Config
  /-- The run of the critic. -/
  invocation : Invocation
deriving DecidableEq

namespace Server

/-- Admits a lint, or says why it is skipped. -/
def startLint (s : Server) (language : Option String) (u : Uri) :
    Except SkipReason (Job × Server) :=
  if !isPerl language u then .error .notPerl
  else if !s.config.enabled then .error .disabled
  else
    match u.filePath? with
    | none => .error .notAFile
    | some path =>
        let (ticket, store) := s.store.start u
        .ok (⟨ticket, s.config, .make s.config path s.root⟩, { s with store })

/-- Settles a lint whose critic is done. -/
def settle (s : Server) (job : Job) (result : Except LintError (List Record)) :
    LintOutcome × Server :=
  match result with
  | .error e => (.failed e, s)
  | .ok records =>
      let ds := records.map (Diagnostic.ofRecord job.config)
      match s.store.publish job.ticket ds with
      | (.published, store) => (.published ds.length, { s with store })
      | (.stale, store) => (.stale, { s with store })
      | (.closed, store) => (.closed, { s with store })

/-- The critic can be started. -/
def rearm (s : Server) : Server := { s with warned := false }

/-- The warning that the critic cannot be started. -/
def warningText (e : LintError) : String :=
  "CriticLint: " ++ e.message ++ ". Diagnostics will not update until it can run."

/-- Takes notice of a failure.  Gives the warning if the user has to see one. -/
def noteFailure (s : Server) (e : LintError) : Option String × Server :=
  if e.isStartFailure && !s.warned then (some (warningText e), { s with warned := true })
  else (none, s)

/-! ## What happens to the store -/

variable {s : Server}

/-- A lint that is admitted has taken a ticket, and nothing else has changed. -/
theorem startLint_eq_ok {language : Option String} {u : Uri} {job : Job} {server : Server}
    (h : s.startLint language u = .ok (job, server)) :
    job.ticket = (s.store.start u).1 ∧ server = { s with store := (s.store.start u).2 } := by
  unfold startLint at h
  split at h
  · cases h
  · split at h
    · cases h
    · split at h
      · cases h
      · cases h
        exact ⟨rfl, rfl⟩

/-- A lint is accepted with the answer of the store, and otherwise changes nothing. -/
theorem settle_cases (s : Server) (job : Job) (result : Except LintError (List Record)) :
    ((∀ n, (s.settle job result).1 ≠ .published n) ∧ (s.settle job result).2 = s) ∨
    ∃ ds, (s.settle job result).1 = .published ds.length ∧
      (s.store.publish job.ticket ds).1 = .published ∧
      (s.settle job result).2 = { s with store := (s.store.publish job.ticket ds).2 } := by
  cases result with
  | error e => exact .inl ⟨nofun, rfl⟩
  | ok records =>
      simp only [settle]
      split
      case h_1 store hp => exact .inr ⟨_, rfl, by rw [hp], by rw [hp]⟩
      all_goals
        rename_i store hp
        cases Store.publish_of_refused hp nofun
        exact .inl ⟨nofun, rfl⟩

@[simp] theorem noteFailure_store (s : Server) (e : LintError) :
    (s.noteFailure e).2.store = s.store := by
  unfold noteFailure
  split <;> rfl

end Server

end PerlLint
