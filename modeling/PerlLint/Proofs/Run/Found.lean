import PerlLint.Proofs.Host.Walking
import PerlLint.Proofs.Invocation.Line
import PerlLint.Run

/-!
# The program that was found and the program that is run

The program of an invocation is found under a path, as it is seen from the directory of the runner.
The shell sees the same path from the working directory of the invocation.  If the path is absolute
these are the same file.  It is so unless the program is a path with more than one component and
both this path and the working directory are relative (`Invocation.Anchored`).

If the path is relative, the shell runs what was found only if the path can be walked from the
working directory, too, and climbs up so far that the two directories have the same directory
above them (`executes_found_iff`).  If no program stands there, nothing says so: the run counts as
one that has found nothing, and only its exit status is 126 or 127 (`run_of_refused`).

What fails before there is a shell is reported.  It counts as a failed start, except that the
directory of the runner may be needed and not be there (`isStartFailure_iff_of_start`).
-/

namespace PerlLint

open Host

/-! ## Programs that are found -/

namespace Host

variable {fs : Files} {here : Location} {search : List String} {dir program path : String}

theorem isProgram_iff :
    fs.isProgram here path ↔
      ∃ l n, fs.locate here path = .ok l ∧ fs.node? l = some n ∧ Files.isExecutable n := by
  unfold Files.isProgram Files.lookUp
  cases hlocate : fs.locate here path with
  | error e => exact iff_of_false nofun nofun
  | ok l =>
      cases hnode : fs.node? l with
      | none => simp [hnode, bind, Except.bind]
      | some n => simp [hnode, bind, Except.bind]

theorem mem_candidates_of_findProgram? (h : findProgram? fs here search dir program = some path) :
    path ∈ candidates search dir program ∧ fs.isProgram here path :=
  ⟨List.mem_of_find?_eq_some h, List.find?_some h⟩

/-- A path of more than one component has a slash. -/
theorem slash_mem_of_components (h : 1 < (components program).length) : '/' ∈ program.toList := by
  by_contra hslash
  have habsolute : ¬ isAbsolute program := by
    rw [isAbsolute_iff]
    rintro ⟨cs, hcs⟩
    exact hslash (hcs ▸ .head _)
  have hsteps : steps program = [program] := by
    rw [steps, Text.splitOn_of_not_mem hslash]
    simp
  have hshort : (components program).length ≤ 1 := by
    unfold components
    rw [hsteps]
    split
    case h_1 rest heq =>
      cases heq
      exact Nat.le_refl _
    case h_2 =>
      rw [if_neg habsolute, List.nil_append]
      exact List.length_filter_le _ [program]
  omega

theorem slash_mem_of_mem_candidates (hsearch : ∀ entry ∈ search, isAbsolute entry)
    (h : path ∈ candidates search dir program) : '/' ∈ path.toList := by
  unfold candidates at h
  split at h
  case isTrue hlong =>
    obtain rfl := List.mem_singleton.1 h
    obtain ⟨-, heq⟩ | ⟨-, gap, heq⟩ := joinPath_cases dir program
    · rw [heq]
      exact slash_mem_of_components hlong
    · rw [heq]
      simp [slash_mem_of_components hlong]
  case isFalse =>
    obtain ⟨entry, hentry, rfl⟩ := List.mem_map.1 h
    have habsolute := (isAbsolute_joinPath entry program).2 (.inr (hsearch entry hentry))
    obtain ⟨cs, hcs⟩ := isAbsolute_iff.1 habsolute
    exact hcs ▸ .head _

end Host

/-- What the program of an invocation is found under does not depend on where the runner is. -/
inductive Invocation.Anchored (i : Invocation) : Prop where
  | bare :
    (components i.program).length ≤ 1 →
    Anchored i
  | program :
    isAbsolute i.program →
    Anchored i
  | directory :
    (∀ dir, i.directory = some dir → isAbsolute dir) →
    Anchored i

namespace Runner

variable {r : Runner} {fs : Files} {i : Invocation} {path line : String} {d l : Location}

/-- The path under which a program is found is absolute just if the invocation is anchored. -/
theorem isAbsolute_program?_iff (hsearch : ∀ entry ∈ r.search, isAbsolute entry)
    (h : r.program? fs i = some path) : isAbsolute path ↔ i.Anchored := by
  have hpath := (mem_candidates_of_findProgram? h).1
  unfold candidates at hpath
  split at hpath
  case isTrue hlong =>
    obtain rfl := List.mem_singleton.1 hpath
    rw [isAbsolute_joinPath]
    constructor
    · rintro (hprogram | hdirectory)
      · exact .program hprogram
      · refine .directory fun dir hdir => ?_
        rwa [lookupDirectory, hdir] at hdirectory
    · intro hanchored
      cases hanchored with
      | bare hbare => omega
      | program hprogram => exact .inl hprogram
      | directory hdirectory =>
          refine .inr ?_
          unfold lookupDirectory
          cases hdir : i.directory with
          | none => exact isAbsolute_pathOf r.here
          | some dir => exact hdirectory dir hdir
  case isFalse hbare =>
    obtain ⟨entry, hentry, rfl⟩ := List.mem_map.1 hpath
    exact iff_of_true ((isAbsolute_joinPath entry i.program).2 (.inr (hsearch entry hentry)))
      (.bare (Nat.le_of_not_lt hbare))

end Runner

/-! ## What a shell runs -/

theorem Text.Bytes.toString_ofString (s : String) : toString (ofString s) = s := by
  have hbytes : toBytes (ofBytes (Utf8.encode s.toList)) = Utf8.encode s.toList := by
    rw [toBytes, ofBytes, List.map_map]
    refine List.map_id'' (fun b => ?_) _
    simp [Utf8.toNat_ofNat_byte]
  rw [toString, ofString, hbytes, Utf8.decodeLossy_encode, String.ofList_toList]

namespace Shell

variable {s s' : State} {path : String}

/-- An action that goes on from where another one has ended. -/
theorem run_bind {α β : Type} {a : Act α} {f : α → Act β} {x : α}
    (h : a.run.run s = .done (.ok x, s')) : (a >>= f).run.run s = (f x).run.run s' := by
  change (a.run.run s >>= _) = _
  rw [h]
  rfl

theorem run_catchStop {a : Act Unit} (h : a.run.run s = .done (.ok (), s')) :
    (Act.catchStop a).run.run s = .done (.ok (), s') := by
  change (a.run.run s >>= _) = _
  rw [h]
  rfl

theorem run_get (s : State) : (get : Act State).run.run s = .done (.ok s, s) := rfl

/-- A name with a slash is a path. -/
theorem run_programPath? (h : '/' ∈ path.toList) (s : State) :
    (programPath? (Text.Bytes.ofString path)).run.run s = .done (.ok (some path), s) := by
  have hslash : (Text.Bytes.ofString path).contains '/' :=
    List.contains_iff_mem.2 ((mem_bytesOf_iff (by decide)).2 h)
  unfold programPath?
  rw [run_bind (run_get s), if_pos hslash, Text.Bytes.toString_ofString]
  rfl

theorem run_refuse (h : s.err = .dropped) (name : List Char) (status : Nat) :
    (refuse name status).run.run s = .done (.ok (), { s with status }) := by
  obtain ⟨⟩ := s
  subst h
  rfl

/-- The shell refuses a path that leads to no program.  The exit status says so, and a complaint
that nobody sees. -/
theorem run_runProgram_refused (hslash : '/' ∈ path.toList) (herr : s.err = .dropped)
    (h : ¬ s.files.isProgram s.directory path) {bound : Nat} (hbound : bound ≠ 0)
    (args : List (List Char)) :
    ∃ status ∈ [126, 127], (runProgram bound (Text.Bytes.ofString path) args).run.run s
      = .done (.ok (), { s with status }) := by
  obtain ⟨n, rfl⟩ := Nat.exists_eq_succ_of_ne_zero hbound
  change ∃ status ∈ _, (programPath? (Text.Bytes.ofString path) >>= _).run.run s = _
  rw [run_bind (run_programPath? hslash s)]
  change ∃ status ∈ _, ((get : Act State) >>= _).run.run s = _
  rw [run_bind (run_get s)]
  unfold Files.isProgram at h
  cases hlookUp : s.files.lookUp s.directory path with
  | error fault => exact ⟨127, by simp, run_refuse herr _ _⟩
  | ok n =>
      rw [hlookUp] at h
      cases n with
      | directory | device d => exact ⟨126, by simp, run_refuse herr _ _⟩
      | utility u => exact absurd rfl h
      | file content executable =>
          cases executable with
          | false => exact ⟨126, by simp, run_refuse herr _ _⟩
          | true => exact absurd rfl h

end Shell

namespace Runner

variable {r : Runner} {fs : Files} {i : Invocation} {path line : String} {d l : Location}

/-- The shell that is started for an invocation runs what stands at a location: the first word of
its line is a program that it finds there. -/
def Executes (r : Runner) (fs : Files) (i : Invocation) (l : Location) : Prop :=
  ∃ line d word args path,
    r.prepare fs i = .ok (line, d) ∧
    Shell.split? (Text.Bytes.ofString line) = some (word :: args) ∧
    (Shell.programPath? word).run.run (r.firstState fs d)
      = .done (.ok (some path), r.firstState fs d) ∧
    fs.locate d path = .ok l

theorem executes_iff (h : r.prepare fs i = .ok (line, d)) (hpath : r.program? fs i = some path)
    (hslash : '/' ∈ path.toList) : r.Executes fs i l ↔ fs.locate d path = .ok l := by
  obtain ⟨path', hpath', rfl⟩ := Invocation.line_of_prepare h
  cases hpath.symm.trans hpath'
  have hwords := Invocation.split?_ofString_lineWith i path
  have hfound := Shell.run_programPath? hslash (r.firstState fs d)
  constructor
  · rintro ⟨line', d', word, args, path', h', hwords', hfound', hlocate⟩
    cases h.symm.trans h'
    cases hwords.symm.trans hwords'
    cases hfound.symm.trans hfound'
    exact hlocate
  · intro hlocate
    exact ⟨_, d, _, _, path, h, hwords, hfound, hlocate⟩

/-- A path that leads to no program from the directory of the shell is not reported: the run ends
without output. -/
theorem run_of_refused (h : r.prepare fs i = .ok (line, d)) (hpath : r.program? fs i = some path)
    (hslash : '/' ∈ path.toList) (hrefused : ¬ fs.isProgram d path) :
    ∃ status ∈ [126, 127], r.run fs i = .ok (fs, ⟨[], 0, some status⟩) := by
  obtain ⟨path', hpath', rfl⟩ := Invocation.line_of_prepare h
  cases hpath.symm.trans hpath'
  have hbound : scriptBound ≠ 0 := by decide
  obtain ⟨status, hstatus, hshell⟩ := Shell.run_runProgram_refused (s := r.firstState fs d)
    hslash rfl hrefused hbound (i.arguments.map Text.Bytes.ofString)
  refine ⟨status, hstatus, ?_⟩
  unfold run start
  rw [h]
  dsimp only
  rw [Invocation.runLine_lineWith, Shell.run_catchStop hshell]
  rfl

/-- A shell that is started for an invocation runs the program that was found just if the invocation
is anchored, or if the path can be walked from the directory of the shell, too, and climbs so far
that this directory and the one of the runner have the same directory above them.  If no program
stands there, the run counts as one that has found nothing. -/
theorem executes_found_iff (hsearch : ∀ entry ∈ r.search, isAbsolute entry)
    (h : r.prepare fs i = .ok (line, d)) :
    ∃ path l n, r.program? fs i = some path ∧
      fs.locate r.here path = .ok l ∧ fs.node? l = some n ∧ Files.isExecutable n ∧
      (r.Executes fs i l ↔
        i.Anchored ∨
          (∃ l', fs.locate d path = .ok l') ∧ d.drop (climb path) = r.here.drop (climb path)) ∧
      (¬ fs.isProgram d path →
        ∃ status ∈ [126, 127], r.run fs i = .ok (fs, ⟨[], 0, some status⟩)) := by
  obtain ⟨path, hpath, -⟩ := Invocation.line_of_prepare h
  obtain ⟨hcandidate, hprogram⟩ := mem_candidates_of_findProgram? hpath
  have hslash := slash_mem_of_mem_candidates hsearch hcandidate
  obtain ⟨l, n, hlocate, hnode, hexecutable⟩ := isProgram_iff.1 hprogram
  refine ⟨path, l, n, hpath, hlocate, hnode, hexecutable, ?_, run_of_refused h hpath hslash⟩
  rw [executes_iff h hpath hslash, locate_eq_iff hlocate d, isAbsolute_program?_iff hsearch hpath]

/-! ### A working directory below that of the runner -/

theorem prepare_eq_ok (hhere : ¬ r.isGone fs i) (hpath : r.program? fs i = some path)
    (hnul : ¬ (hasNul (i.lineWith path) || hasNul (i.directory.getD "")))
    (hdirectory : r.directoryAt fs i.directory = .ok d)
    (hshort : ¬ lineBound ≤ (i.lineWith path).utf8ByteSize) :
    r.prepare fs i = .ok (i.lineWith path, d) := by
  rw [prepare, if_neg hhere, hpath]
  dsimp only
  rw [if_neg hnul, hdirectory]
  exact if_neg hshort

theorem prepare_eq_gone_iff : r.prepare fs i = .error .gone ↔ r.isGone fs i := by
  constructor
  · intro h
    by_contra hhere
    rw [prepare, if_neg hhere] at h
    split at h
    case h_1 => cases h
    case h_2 path =>
      dsimp only at h
      split at h
      case isTrue => cases h
      case isFalse =>
        split at h
        case h_1 => cases h
        case h_2 => split at h <;> cases h
  · intro h
    rw [prepare, if_pos h]

/-- An invocation that fails before the shell runs counts as a failed start, unless it needs the
directory of the runner and that is not there. -/
theorem isStartFailure_iff_of_start {e : LintError} (h : r.start fs i = .error e) :
    e.isStartFailure ↔ ¬ r.isGone fs i := by
  unfold start at h
  cases hprepare : r.prepare fs i with
  | ok prepared =>
      rw [hprepare] at h
      cases h
  | error fault =>
      rw [hprepare] at h
      cases h
      rw [← prepare_eq_gone_iff, hprepare]
      cases fault <;> simp [StartFault.toError, LintError.isStartFailure]

/-- A runner in a directory below the root. -/
def lowRunner : Runner := ⟨["r"], ["/bin"]⟩

/-- The invocation of a program by its path, in a directory seen from that of the runner. -/
def lowInvocation (program : String) : Invocation :=
  .make { Config.standard with executable := program, path := "sub" } "a.pl" none

/-- A machine with a program in the root, and with two directories, one in the other. -/
def deepFiles : Files :=
  (Files.empty.write ["critic"] [] true).makeDirectories ["sub", "sub", "r"]

/-- Three directories up from the lower one, and two from the other, is the root. -/
theorem executes_found_iff_climbing :
    let i := lowInvocation "../../../critic"
    (∀ entry ∈ lowRunner.search, isAbsolute entry) ∧
    lowRunner.prepare deepFiles i = .ok (i.lineWith "sub/../../../critic", ["sub", "r"]) ∧
    ¬ i.Anchored ∧ climb "sub/../../../critic" = 2 ∧ lowRunner.Executes deepFiles i ["critic"] := by
  intro i
  have hsearch : ∀ entry ∈ lowRunner.search, isAbsolute entry := by decide +kernel
  have hpath : lowRunner.program? deepFiles i = some "sub/../../../critic" := by decide +kernel
  have hnul : ¬ (hasNul (i.lineWith "sub/../../../critic") || hasNul (i.directory.getD "")) := by
    rw [hasNul, Invocation.lineWith, Shell.lineOfWords, String.toList_ofList]
    decide +kernel
  have hshort : ¬ lineBound ≤ (i.lineWith "sub/../../../critic").utf8ByteSize := by decide +kernel
  have hprepare := prepare_eq_ok (by decide) hpath hnul (d := ["sub", "r"]) rfl hshort
  have hanchored : ¬ i.Anchored := by
    rw [← isAbsolute_program?_iff hsearch hpath]
    decide +kernel
  have hclimb : climb "sub/../../../critic" = 2 := by decide +kernel
  obtain ⟨path, l, n, hpath', hlocate, -, -, hexecutes, -⟩ := executes_found_iff hsearch hprepare
  cases hpath.symm.trans hpath'
  cases hlocate
  exact ⟨hsearch, hprepare, hanchored, hclimb, hexecutes.2 (.inr ⟨⟨_, rfl⟩, by rw [hclimb]; rfl⟩)⟩

/-- A machine with a program in the lower directory. -/
def lowFiles : Files := Files.empty.write ["critic", "sub", "r"] [] true

/-- The program is found, as seen from the directory of the runner.  It is not there for the shell,
which says nothing, and the run has found nothing. -/
theorem not_executes_found :
    let i := lowInvocation "./critic"
    (∀ entry ∈ lowRunner.search, isAbsolute entry) ∧
    lowRunner.program? lowFiles i = some "sub/./critic" ∧
    lowFiles.locate lowRunner.here "sub/./critic" = .ok ["critic", "sub", "r"] ∧
    ¬ lowRunner.Executes lowFiles i ["critic", "sub", "r"] ∧
    ∃ status, lowRunner.run lowFiles i = .ok (lowFiles, ⟨[], 0, some status⟩) := by
  intro i
  have hsearch : ∀ entry ∈ lowRunner.search, isAbsolute entry := by decide +kernel
  have hpath : lowRunner.program? lowFiles i = some "sub/./critic" := by decide +kernel
  have hnul : ¬ (hasNul (i.lineWith "sub/./critic") || hasNul (i.directory.getD "")) := by
    rw [hasNul, Invocation.lineWith, Shell.lineOfWords, String.toList_ofList]
    decide +kernel
  have hshort : ¬ lineBound ≤ (i.lineWith "sub/./critic").utf8ByteSize := by decide +kernel
  have hprepare := prepare_eq_ok (by decide) hpath hnul (d := ["sub", "r"]) rfl hshort
  have hslash : '/' ∈ "sub/./critic".toList := by decide +kernel
  have hrefused : ¬ lowFiles.isProgram ["sub", "r"] "sub/./critic" := by decide +kernel
  have hmissing : lowFiles.locate ["sub", "r"] "sub/./critic" ≠ .ok ["critic", "sub", "r"] := by
    intro h
    cases h
  obtain ⟨status, -, hrun⟩ := run_of_refused hprepare hpath hslash hrefused
  exact ⟨hsearch, hpath, rfl, (executes_iff hprepare hpath hslash).not.2 hmissing, status, hrun⟩

end Runner

end PerlLint
