import PerlLint.Config.Settings
import PerlLint.Report
import PerlLint.Run

/-!
# Checking files

The critic runs on one file after the other, and a report of all of them is
printed at the end.  It is all or nothing: if the configuration cannot be used, or
the critic cannot be run on some file, nothing is printed and the files after it
are not checked.

The exit status is 0 if there are no diagnostics, 1 if there are some, and 2 if
something went wrong.  If linting is off nothing is done, and that is a success.

What the critic does is left open: a `Critic` answers an invocation and may change
the world around it.  The critic of a runner is one whose world are the files.
-/

namespace PerlLint

open Host

/-- What a command leaves behind. -/
structure Finish where
  /-- The exit status. -/
  status : Nat
  /-- What was printed. -/
  stdout : String
deriving Repr, DecidableEq

/-- A request to check files. -/
structure CheckRequest where
  /-- The configuration file, if one is named. -/
  config : Option String
  /-- The files, in order. -/
  files : List String
  /-- The format of the report. -/
  format : ReportFormat
deriving Repr, DecidableEq

/-- A critic in a world `W`, which holds all that runs may read and change. -/
structure Critic (W : Type) where
  /-- Carries out an invocation, and gives the world as it is afterwards. -/
  run : Invocation → W → Except LintError Output × W
  /-- The records of an output are those in the bytes that were printed. -/
  exists_records_eq : ∀ {i w out}, (run i w).1 = .ok out →
    ∃ bytes, out.records = (Output.ofBytes bytes).records

/-- The critic of a runner. -/
def Runner.critic (r : Runner) : Critic Files where
  run i fs :=
    match r.run fs i with
    | .ok (fs, out) => (.ok out, fs)
    | .error e => (.error e, fs)
  exists_records_eq := by
    intro i fs out h
    split at h
    case h_1 fs' out' hrun =>
      cases h
      exact exists_records_eq_of_run hrun
    case h_2 => cases h

namespace CheckRequest

variable {W : Type}

/-- The path of the current directory. -/
def currentPath (r : Runner) : String := Files.pathOf r.here

/-- The configuration that counts: that of the file named, or of the one in the
current directory, or the standard one. -/
def loadConfig (r : Runner) (fs : Files) (named : Option String) : Except ConfigError Config :=
  match named.or (Config.discover? fs r.here (currentPath r)) with
  | some path => Config.ofFile fs r.here path
  | none => .ok .standard

/-- The report of one file from the output of the critic. -/
def reportOf (c : Config) (path : String) (out : Output) : FileReport :=
  ⟨path, out.records.map (Diagnostic.ofRecord c)⟩

/-- Runs the critic on files, one after the other, and stops at the first that
fails. -/
def checkFiles (critic : Critic W) (c : Config) (directory : String) :
    List String → W → Except LintError (List FileReport) × W
  | [], w => (.ok [], w)
  | path :: paths, w =>
      match critic.run (Invocation.make c path (some directory)) w with
      | (.error e, w) => (.error e, w)
      | (.ok out, w) =>
          match checkFiles critic c directory paths w with
          | (.error e, w) => (.error e, w)
          | (.ok reports, w) => (.ok (reportOf c path out :: reports), w)
termination_by structural paths => paths

/-- What a finished check leaves behind. -/
def finish (format : ReportFormat) (reports : List FileReport) : Finish :=
  ⟨if FileReport.issues reports = 0 then 0 else 1, FileReport.render format reports⟩

/-- Carries out a request with any critic. -/
def performWith (q : CheckRequest) (r : Runner) (fs : Files) (critic : Critic W) (w : W) :
    Except LintError Finish × W :=
  match loadConfig r fs q.config with
  | .error e => (.error (.config e), w)
  | .ok c =>
      if !c.enabled then (.ok ⟨0, ""⟩, w)
      else
        match checkFiles critic c (currentPath r) q.files w with
        | (.error e, w) => (.error e, w)
        | (.ok reports, w) => (.ok (finish q.format reports), w)

/-- What a request leaves behind.  Any error means status 2 and no output. -/
def finishOf : Except LintError Finish → Finish
  | .ok finish => finish
  | .error _ => ⟨2, ""⟩

/-- Carries out a request with any critic, to the end. -/
def runWith (q : CheckRequest) (r : Runner) (fs : Files) (critic : Critic W) (w : W) :
    Finish × W :=
  match q.performWith r fs critic w with
  | (result, w) => (finishOf result, w)

/-- Carries out a request. -/
def perform (q : CheckRequest) (r : Runner) (fs : Files) : Except LintError Finish :=
  (q.performWith r fs r.critic fs).1

/-- Carries out a request, to the end. -/
def run (q : CheckRequest) (r : Runner) (fs : Files) : Finish := (q.runWith r fs r.critic fs).1

end CheckRequest

end PerlLint
