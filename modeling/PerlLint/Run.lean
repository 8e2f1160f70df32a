import PerlLint.Config.Basic
import PerlLint.Config.Settings
import PerlLint.Host.Files
import PerlLint.Output
import PerlLint.Shell.Eval
import PerlLint.Shell.Words
import PerlLint.Violation

/-!
# Running the critic

An *invocation* is one run of the critic on one file: the program, its arguments
in order, and the working directory.  The arguments are the flag of the mildest
tier, `--noprofile` if the user's profile is not to be read, a pair `--exclude`
and policy for every excluded policy, `--verbose` and the template, and the file.

An invocation is carried out in three steps.  The program is looked up, so that a
missing one is reported as such.  The path that was found takes the place of the
program in the command line.  The line is given to a shell in the working
directory of the invocation.

Two directories are in play.  The program is looked up from the directory of the
runner (`here`), and run from the working directory.  So a relative path that was
found may lead nowhere when it is run.  An invocation without a working directory
takes that of the runner.  If it is not there any more, this is a failure of input
and output, not of the start.

Whatever the critic's exit status is, its output counts.

Three things can go wrong before there are diagnostics: the configuration cannot be
used, the critic cannot be started, or input or output fails.  A failed start is told
apart from the others, since it may go on until the user does something about it.
-/

namespace PerlLint

open Host

/-! ## Errors -/

/-- An error. -/
inductive LintError where
  /-- The configuration cannot be used. -/
  | config (cause : ConfigError)
  /-- The program cannot be started, for the reason given. -/
  | start (program : String) (reason : String)
  /-- Input or output failed, for the reason given. -/
  | stream (reason : String)
deriving DecidableEq

namespace LintError

/-- The wording of an error. -/
def message : LintError → String
  | config cause => "Configuration error: " ++ cause.message
  | start program reason => "Failed to start `" ++ program ++ "`: " ++ reason
  | stream reason => "I/O error: " ++ reason

/-- Whether the critic could not be started. -/
def isStartFailure : LintError → Bool
  | start _ _ => true
  | _ => false

end LintError

/-! ## Invocations -/

/-- One run of the critic on one file. -/
structure Invocation where
  /-- The program. -/
  program : String
  /-- The arguments. -/
  arguments : List String
  /-- The working directory, if one is chosen. -/
  directory : Option String
deriving Repr, DecidableEq

namespace Invocation

/-- The arguments for a file. -/
def argumentsFor (c : Config) (file : String) : List String :=
  [c.severity.flag]
    ++ (if c.useProfile then [] else ["--noprofile"])
    ++ c.excludedPolicies.flatMap (fun p => ["--exclude", p])
    ++ ["--verbose", outputTemplate, file]

/-- The invocation for a file.  `fallback` is the working directory if none is
configured. -/
def make (c : Config) (file : String) (fallback : Option String) : Invocation :=
  ⟨c.executable, argumentsFor c file, c.workingDirectory? fallback⟩

/-- The command line with another program in place. -/
def lineWith (i : Invocation) (program : String) : String :=
  Shell.lineOfWords (program :: i.arguments)

/-- The command line. -/
def line (i : Invocation) : String := i.lineWith i.program

end Invocation

/-! ## The runner -/

/-- Where the critic is run from. -/
structure Runner where
  /-- The current directory. -/
  here : Location
  /-- The directories in which programs are looked for. -/
  search : List String

namespace Runner

/-! ## Starting -/

/-- Why a program cannot be started. -/
inductive StartFault where
  /-- The current directory is needed, and is not there. -/
  | gone
  /-- No such program was found. -/
  | notFound
  /-- The command line or the working directory holds a NUL. -/
  | nul
  /-- The command line is too long. -/
  | tooLong
  /-- The working directory cannot be used. -/
  | directory (fault : FileFault)
deriving Repr, DecidableEq

/-- The wording of a fault. -/
def StartFault.message : StartFault → String
  | gone => FileFault.missing.message
  | notFound => "cannot find binary path"
  | nul => "nul byte found in provided data"
  | tooLong => "Argument list too long (os error 7)"
  | directory fault => fault.message

/-- The error as which a fault is reported. -/
def StartFault.toError (program : String) : StartFault → LintError
  | gone => .stream gone.message
  | fault => .start program fault.message

/-- The size that a command line stays below, in bytes. -/
def lineBound : Nat := 131072

/-- The directory from which a program is looked up. -/
def lookupDirectory (r : Runner) (i : Invocation) : String :=
  i.directory.getD (Files.pathOf r.here)

/-- The path under which the program of an invocation is found. -/
def program? (r : Runner) (fs : Files) (i : Invocation) : Option String :=
  findProgram? fs r.here r.search (r.lookupDirectory i) i.program

/-- The location of a working directory. -/
def directoryAt (r : Runner) (fs : Files) : Option String → Except FileFault Location
  | none => .ok r.here
  | some dir => do
      let l ← fs.locate r.here dir
      if fs.isDirectoryAt l then .ok l else .error .notDirectory

/-- Whether an invocation needs the current directory, and it is not there. -/
def isGone (r : Runner) (fs : Files) (i : Invocation) : Bool :=
  i.directory.isNone && !fs.isDirectoryAt r.here

/-- Whether a text holds a NUL. -/
def hasNul (s : String) : Bool := s.toList.contains '\x00'

/-- The command line of an invocation, and the location of its working
directory. -/
def prepare (r : Runner) (fs : Files) (i : Invocation) : Except StartFault (String × Location) :=
  if r.isGone fs i then .error .gone
  else
    match r.program? fs i with
    | none => .error .notFound
    | some path =>
        let line := i.lineWith path
        if hasNul line || hasNul (i.directory.getD "") then .error .nul
        else
          match r.directoryAt fs i.directory with
          | .error fault => .error (.directory fault)
          | .ok l => if lineBound ≤ line.utf8ByteSize then .error .tooLong else .ok (line, l)

/-! ## Running -/

/-- The bound on the depth of scripts. -/
def scriptBound : Nat := 1000000

/-- The shell when it starts with a command line. -/
def firstState (r : Runner) (fs : Files) (directory : Location) : Shell.State where
  files := fs
  collected := []
  input := []
  out := .collected
  err := .dropped
  bindings := Shell.firstVariables r.search
  name := ['s', 'h']
  arguments := []
  directory := directory
  search := r.search
  status := 0

/-- Runs a command line.  One that is not plain is beyond this shell. -/
def runLine (line : String) : Shell.Act Unit :=
  match Shell.split? (Text.Bytes.ofString line) with
  | some (name :: args) => Shell.runProgram scriptBound name args
  | _ => Shell.Act.finish 2

/-- What a shell has collected when it is done. -/
def outputOf (s : Shell.State) : Output :=
  { Output.ofBytes (Text.Bytes.toBytes s.collected.reverse.flatten) with
    exitCode := some s.status }

/-- Starts an invocation.  Its result are the files as the critic leaves them, and
its output. -/
def start (r : Runner) (fs : Files) (i : Invocation) :
    Except LintError (Activity (Files × Output)) :=
  match r.prepare fs i with
  | .error fault => .error (fault.toError i.program)
  | .ok (line, directory) =>
      .ok do
        let (_, s) ← (Shell.Act.catchStop (runLine line)).run.run (r.firstState fs directory)
        return (s.files, outputOf s)

/-- How often a critic may sleep that nobody else can wake up. -/
def sleepBound : Nat := 100000

/-- Carries out an invocation to its end. -/
def run (r : Runner) (fs : Files) (i : Invocation) : Except LintError (Files × Output) :=
  match r.start fs i with
  | .error e => .error e
  | .ok activity =>
      match activity.wakeAll sleepBound with
      | some result => .ok result
      | none => .error (.stream "timed out")

/-- The records of a run are those in the bytes that the shell has collected. -/
theorem exists_records_eq_of_run {r : Runner} {fs fs' : Files} {i : Invocation} {out : Output}
    (h : r.run fs i = .ok (fs', out)) : ∃ bytes, out.records = (Output.ofBytes bytes).records := by
  unfold run start at h
  cases hprepare : r.prepare fs i with
  | error fault =>
      rw [hprepare] at h
      cases h
  | ok prepared =>
      rw [hprepare] at h
      dsimp only at h
      split at h
      case h_1 result hwake =>
        obtain ⟨⟨stop, s⟩, n, hdone⟩ := Activity.wakeAll_bind hwake
        cases h
        cases n <;> cases hdone <;> exact ⟨_, rfl⟩
      case h_2 => cases h

end Runner

end PerlLint
