import PerlLint.Proofs.Shell.Quoting
import PerlLint.Run

/-!
# Command lines

A command line says what is to be run, and nothing else.  The shell splits it into the program
and the arguments, and the words tell what they were made for: `Request.ofWords?` reads the
program, the tier, whether the profile is read, the policies left out and the file off them.

A word is never taken for what it is not.  A policy or a file may look like an option, but every
word is read at its place: a policy is the word after `--exclude`, and the file comes after the
template.
-/

namespace PerlLint.Invocation

/-! ## What the words say -/

/-- What an invocation is made for. -/
structure Request where
  /-- The program. -/
  executable : String
  /-- The mildest tier to report. -/
  severity : Tier
  /-- Whether the critic reads the user's own profile. -/
  useProfile : Bool
  /-- The policies that are left out, in order. -/
  excludedPolicies : List String
  /-- The file. -/
  file : String
deriving Repr, DecidableEq

namespace Request

/-- The request for a file under a configuration. -/
def make (c : Config) (file : String) : Request :=
  ⟨c.executable, c.severity, c.useProfile, c.excludedPolicies, file⟩

/-- The tier of a flag. -/
def tier? (word : String) : Option Tier := Tier.all.find? fun t => t.flag == word

/-- Whether the profile is read, and the words after that. -/
def readProfile : List String → Bool × List String
  | [] => (true, [])
  | w :: ws => if w = "--noprofile" then (false, ws) else (true, w :: ws)

/-- The file, which is the last word. -/
def readFile? : List String → Option String
  | [file] => some file
  | _ => none

/-- The policies that are left out, and the file. -/
def readPolicies? : List String → Option (List String × String)
  | w :: p :: ws =>
      if w = "--exclude" then (readPolicies? ws).map fun read => (p :: read.1, read.2)
      else if w = "--verbose" ∧ p = outputTemplate then (readFile? ws).map fun file => ([], file)
      else none
  | _ => none

/-- The request that words are made for. -/
def ofWords? : List String → Option Request
  | executable :: flag :: ws =>
      match tier? flag, readPolicies? (readProfile ws).2 with
      | some severity, some (policies, file) =>
          some ⟨executable, severity, (readProfile ws).1, policies, file⟩
      | _, _ => none
  | _ => none

theorem tier?_flag (t : Tier) : tier? t.flag = some t := by
  cases t <;> decide

/-- Only `--noprofile` itself switches the profile off.  The words after it begin with
`--exclude` or `--verbose`. -/
theorem readProfile_arguments (useProfile : Bool) (policies : List String) (rest : List String) :
    readProfile ((if useProfile then [] else ["--noprofile"])
        ++ (policies.flatMap fun p => ["--exclude", p]) ++ "--verbose" :: rest)
      = (useProfile, (policies.flatMap fun p => ["--exclude", p]) ++ "--verbose" :: rest) := by
  cases useProfile with
  | false => rfl
  | true => cases policies <;> rfl

theorem readPolicies?_arguments (policies : List String) (file : String) :
    readPolicies? ((policies.flatMap fun p => ["--exclude", p])
        ++ ["--verbose", outputTemplate, file]) = some (policies, file) := by
  induction policies with
  | nil => simp [readPolicies?, readFile?]
  | cons p ps ih =>
      rw [List.flatMap_cons, List.append_assoc, List.cons_append, List.cons_append,
        List.nil_append, readPolicies?, if_pos rfl, ih]
      rfl

/-- The words of an invocation say what it was made for. -/
theorem ofWords?_arguments (c : Config) (file : String) :
    ofWords? (c.executable :: argumentsFor c file) = some (make c file) := by
  have hwords : argumentsFor c file = c.severity.flag ::
      ((if c.useProfile then [] else ["--noprofile"])
        ++ (c.excludedPolicies.flatMap fun p => ["--exclude", p])
        ++ ["--verbose", outputTemplate, file]) := by
    simp [argumentsFor]
  rw [hwords, ofWords?, tier?_flag, readProfile_arguments, readPolicies?_arguments]
  rfl

end Request

/-! ## What the shell sees -/

section

variable {r : Runner} {fs : Host.Files} {i : Invocation} {line : String}
  {directory : Host.Location}

/-- A line that is handed to a shell has the path in it under which the program was found. -/
theorem line_of_prepare (h : r.prepare fs i = .ok (line, directory)) :
    ∃ path, r.program? fs i = some path ∧ line = i.lineWith path := by
  unfold Runner.prepare at h
  split at h
  · cases h
  · cases hprogram : r.program? fs i with
    | none => rw [hprogram] at h; cases h
    | some path =>
        rw [hprogram] at h
        dsimp only at h
        split at h
        · cases h
        · split at h
          · cases h
          · split at h
            · cases h
            · cases h
              exact ⟨path, rfl, rfl⟩

theorem split?_lineWith (i : Invocation) (program : String) :
    Shell.split? (i.lineWith program).toList
      = some ((program :: i.arguments).map String.toList) :=
  Shell.split?_lineOfWords _

theorem split?_ofString_lineWith (i : Invocation) (program : String) :
    Shell.split? (Text.Bytes.ofString (i.lineWith program))
      = some ((program :: i.arguments).map Text.Bytes.ofString) :=
  Shell.split?_ofString_lineOfWords _

/-- The shell runs one program, with the arguments of the invocation. -/
theorem runLine_lineWith (i : Invocation) (program : String) :
    Runner.runLine (i.lineWith program)
      = Shell.runProgram Runner.scriptBound (Text.Bytes.ofString program)
          (i.arguments.map Text.Bytes.ofString) := by
  rw [Runner.runLine, split?_ofString_lineWith]
  rfl

end

/-! ## The command line -/

/-- The command line holds the program and the arguments, whatever is in them, and tells what it
was made for.  The line that is handed to a shell is the same, with the path in place of the
program, also for a shell that reads bytes. -/
theorem command_line_recovered (c : Config) (file : String) (fallback : Option String) :
    let i := make c file fallback
    Shell.split? i.line.toList = some ((c.executable :: i.arguments).map String.toList) ∧
    Request.ofWords? (c.executable :: i.arguments) = some (Request.make c file) ∧
    ∀ (r : Runner) (fs : Host.Files) (line : String) (directory : Host.Location),
      r.prepare fs i = .ok (line, directory) →
      ∃ path, r.program? fs i = some path ∧
        Shell.split? line.toList = some ((path :: i.arguments).map String.toList) ∧
        Shell.split? (Text.Bytes.ofString line)
          = some ((path :: i.arguments).map Text.Bytes.ofString) := by
  dsimp only
  refine ⟨split?_lineWith _ _, Request.ofWords?_arguments c file, ?_⟩
  intro r fs line directory h
  obtain ⟨path, hpath, rfl⟩ := line_of_prepare h
  exact ⟨path, hpath, split?_lineWith _ _, split?_ofString_lineWith _ _⟩

/-- A configuration with words that look like options, or like the work of a shell. -/
def awkwardConfig : Config :=
  { Config.standard with
    executable := "it's"
    useProfile := false
    excludedPolicies := ["--verbose", "", "$(x) \x60y\x60\n\\"] }

/-- A machine that has a program with this name. -/
def awkwardFiles : Host.Files := Host.Files.empty.write ["it's", "bin"] [] true

theorem command_line_recovered_awkward :
    let i := make awkwardConfig "--noprofile" none
    let r : Runner := ⟨[], ["/bin"]⟩
    r.prepare awkwardFiles i = .ok (i.lineWith "/bin/it's", []) ∧
    r.program? awkwardFiles i = some "/bin/it's" ∧
    Shell.split? (i.lineWith "/bin/it's").toList
      = some (("/bin/it's" :: i.arguments).map String.toList) := by
  intro i r
  have hprogram : r.program? awkwardFiles i = some "/bin/it's" := by decide +kernel
  have hnul : ¬ (Runner.hasNul (i.lineWith "/bin/it's")
      || Runner.hasNul (i.directory.getD "")) := by
    rw [Runner.hasNul, Invocation.lineWith, Shell.lineOfWords, String.toList_ofList]
    decide +kernel
  have hshort : ¬ Runner.lineBound ≤ (i.lineWith "/bin/it's").utf8ByteSize := by decide +kernel
  have hprepare : r.prepare awkwardFiles i = .ok (i.lineWith "/bin/it's", []) := by
    rw [Runner.prepare, if_neg (by decide), hprogram]
    dsimp only
    rw [if_neg hnul]
    exact if_neg hshort
  obtain ⟨path, hpath, hwords, -⟩ :=
    (command_line_recovered awkwardConfig "--noprofile" none).2.2 r awkwardFiles _ _ hprepare
  cases hprogram.symm.trans hpath
  exact ⟨hprepare, hprogram, hwords⟩

end PerlLint.Invocation
