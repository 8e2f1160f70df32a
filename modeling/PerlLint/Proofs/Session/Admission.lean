import Mathlib.Tactic.IntervalCases
import PerlLint.Proofs.Session.Removal
import PerlLint.Proofs.Session.Warnings

/-!
# Which lints are admitted

A document that is opened or saved is to be linted.  The language that counts is the one in which it
was opened last, unless it has been closed since (`language?_eq_some_iff`).  It is fixed when the
lint is asked for, and the configuration when the lint starts.

When a lint starts it is admitted, or it is skipped for the first of three reasons
(`Obstacle`).  `lint_asked_for` says what becomes of it: an admitted lint takes a ticket and calls
the critic, and a skipped one does nothing to the session, then or later.
-/

namespace PerlLint

namespace Session

open Host

/-! ## The language of a document -/

/-- An act opens or closes a document. -/
def Act.Concerns (a : Act) (u : Uri) : Prop :=
  a = .move (.closes u) ∨ ∃ language, a = .move (.opens u language)

/-- At a point of a course a document is open in a language: it was opened in this language, and
has been neither closed nor opened again since. -/
def OpenIn (acts : Nat → Act) (n : Nat) (u : Uri) (language : String) : Prop :=
  ∃ k < n, acts k = .move (.opens u language) ∧ ∀ l, k < l → l < n → ¬ (acts l).Concerns u

variable {r : Runner} {files : Files} {acts : Nat → Act} {s s' : Session} {a : Act} {n m i : Nat}
  {u : Uri} {t : Task} {language : String}

theorem openIn_succ : OpenIn acts (n + 1) u language ↔
    acts n = .move (.opens u language) ∨ OpenIn acts n u language ∧ ¬ (acts n).Concerns u :=
  exists_since_succ

/-- A task that steps leaves the documents as they are.  What follows a decision is left out,
because the rules say too little about the server there. -/
theorem Advance.documents_eq (h : Advance s i t s') (ht : ∀ outcome, t.stage ≠ .decided outcome) :
    s'.server.documents = s.server.documents := by
  cases h with
  | start _ hs =>
      obtain ⟨-, rfl⟩ := Server.startLint_eq_ok hs
      rfl
  | @settle job result _ =>
      obtain ⟨-, hs⟩ | ⟨ds, -, -, hs⟩ := s.server.settle_cases job result
      · rw [hs]
        rfl
      · rw [hs]
        rfl
  | rearm hstage _ | drop hstage _ | fail hstage _ _ | warn _ hstage _ _ =>
      exact absurd hstage (ht _)
  | tell _ => exact congrArg Server.documents (send_server s _)
  | skip _ | run _ _ _ | lock _ _ | read _ | release _ => rfl

theorem documents_decided (r : Runner) (s : Session) (i : Nat) {outcome : LintOutcome}
    (hstage : t.stage = .decided outcome) :
    (s.stepTask r i t).server.documents = s.server.documents := by
  rw [stepTask, hstage]
  cases outcome with
  | failed e =>
      obtain ⟨-, -, hnote⟩ | ⟨-, hnote⟩ := s.server.noteFailure_cases e
      · simp only [hnote]
        rw [enter_server, send_server]
      · simp only [hnote]
        rfl
  | skipped why | published count | stale | closed => rfl

theorem documents_step (r : Runner) (s : Session) (i : Nat) :
    (s.step r i).server.documents = s.server.documents := by
  unfold step
  split
  case h_2 => rfl
  case h_1 t ht =>
    by_cases hdecided : ∃ outcome, t.stage = .decided outcome
    · obtain ⟨outcome, hstage⟩ := hdecided
      exact documents_decided r s i hstage
    · obtain hs | hadvance := s.stepTask_cases r i t
      · rw [hs]
      · exact hadvance.documents_eq fun outcome hstage => hdecided ⟨outcome, hstage⟩

/-- Only what concerns a document changes the language that is known of it. -/
theorem language?_perform (r : Runner) (s : Session) (h : ¬ a.Concerns u) :
    (a.perform r s).server.language? u = s.server.language? u := by
  obtain ⟨m, rfl⟩ | hturned := a.move_or_turned r s
  · cases m with
    | opens v language =>
        have hne : u ≠ v := by
          rintro rfl
          exact h (.inr ⟨language, rfl⟩)
        exact s.server.documents.get?_set_ne language hne
    | closes v =>
        have hne : u ≠ v := by
          rintro rfl
          exact h (.inl rfl)
        exact s.server.documents.get?_erase_ne hne
    | saves v | lints v language | disk files | faults fault => rfl
    | settings v =>
        exact congrArg (Table.get? · u) (Server.applySettings_documents s.files r.here v s.server)
    | watches changed =>
        exact congrArg (Table.get? · u)
          (Server.filesChanged_documents s.files r.here changed s.server)
    | ready => exact congrArg (Server.language? · u) (send_server s _)
    | steps i => exact congrArg (Table.get? · u) (documents_step r s i)
  · exact congrArg (Table.get? · u) hturned.documents

/-- The language that is known of a document is the one in which it is open. -/
theorem language?_eq_some_iff (r : Runner) (files : Files) (acts : Nat → Act) (n : Nat) (u : Uri) :
    (course r files acts n).server.language? u = some language ↔ OpenIn acts n u language := by
  induction n with
  | zero =>
      constructor
      · intro h
        cases h
      · rintro ⟨k, hk, -⟩
        cases hk
  | succ n ih =>
      rw [openIn_succ, course]
      by_cases hconcerns : (acts n).Concerns u
      · obtain hcloses | ⟨language', hopens⟩ := hconcerns
        · have hnone : ((acts n).perform r (course r files acts n)).server.language? u = none := by
            rw [hcloses]
            exact (course r files acts n).server.documents.get?_erase_self u
          rw [hnone, hcloses]
          simp [Act.Concerns]
        · have hsome : ((acts n).perform r (course r files acts n)).server.language? u
              = some language' := by
            rw [hopens]
            exact (course r files acts n).server.documents.get?_set_self u language'
          rw [hsome, hopens]
          simp [Act.Concerns]
      · have hopens : acts n ≠ .move (.opens u language) := fun h =>
          hconcerns (.inr ⟨language, h⟩)
        rw [language?_perform r _ hconcerns, ih]
        simp [hconcerns, hopens]

/-- A document counts as Perl: it is open in Perl, or it is not open and its name has a Perl
ending. -/
def CountsAsPerl (acts : Nat → Act) (n : Nat) (u : Uri) : Prop :=
  OpenIn acts n u perlLanguage ∨ (∀ language, ¬ OpenIn acts n u language) ∧
    hasPerlEnding u.path.toList

theorem isPerl_language?_iff (r : Runner) (files : Files) (acts : Nat → Act) (n : Nat) (u : Uri) :
    isPerl ((course r files acts n).server.language? u) u ↔ CountsAsPerl acts n u := by
  simp only [CountsAsPerl, ← language?_eq_some_iff r files acts n u]
  cases (course r files acts n).server.language? u with
  | none => simp [isPerl]
  | some language => simp [isPerl]

/-! ## From the notification to the start -/

/-- An act asks for a lint of a document. -/
def Act.AsksFor (a : Act) (u : Uri) : Prop :=
  a = .move (.saves u) ∨ ∃ language, a = .move (.opens u language)

/-- A lint is asked for in the language that is known of the document. -/
theorem Act.AsksFor.perform (h : a.AsksFor u) (r : Runner) (s : Session) :
    (a.perform r s).tasks
        = s.tasks ++ [⟨u, .requested ((a.perform r s).server.language? u)⟩] ∧
      (a.perform r s).server.store = s.server.store := by
  obtain rfl | ⟨language, rfl⟩ := h
  · exact ⟨rfl, rfl⟩
  · have hlanguage : (Act.perform r s (.move (.opens u language))).server.language? u
        = some language := s.server.documents.get?_set_self u language
    rw [hlanguage]
    exact ⟨rfl, rfl⟩

/-- After a point of a course, the next step of the task with a number is this act. -/
structure NextStep (acts : Nat → Act) (n m i : Nat) : Prop where
  /-- It comes later. -/
  later : n < m
  /-- It is a step of the task. -/
  act : acts m = .move (.steps i)
  /-- There is none before. -/
  first : ∀ l, n < l → l < m → acts l ≠ .move (.steps i)

/-- A task stays as it is as long as it does not step. -/
theorem getElem?_course (ht : (course r files acts n).tasks[i]? = some t) (hnm : n ≤ m)
    (h : ∀ l, n ≤ l → l < m → acts l ≠ .move (.steps i)) :
    (course r files acts m).tasks[i]? = some t := by
  induction m, hnm using Nat.le_induction with
  | base => exact ht
  | succ m hnm ih =>
      have hm := ih fun l hnl hlm => h l hnl (Nat.lt_succ_of_lt hlm)
      exact (untouched_perform r _ (h m hnm (Nat.lt_succ_self m))).getElem? hm

theorem NextStep.getElem? (h : NextStep acts n m i)
    (ht : (course r files acts (n + 1)).tasks[i]? = some t) :
    (course r files acts m).tasks[i]? = some t :=
  getElem?_course ht h.later fun l hnl hlm => h.first l hnl hlm

/-- What a step of a task does along a course. -/
theorem course_step (ha : acts m = .move (.steps i))
    (ht : (course r files acts m).tasks[i]? = some t) :
    course r files acts (m + 1) = (course r files acts m).stepTask r i t := by
  rw [course, ha, Act.perform, Move.perform, step, ht]

/-! ## The start -/

/-- Why a lint is skipped: the first of three reasons. -/
inductive Obstacle (isPerl : Prop) (c : Config) (u : Uri) : SkipReason → Prop where
  | notPerl : ¬ isPerl → Obstacle isPerl c u .notPerl
  | disabled : isPerl → c.enabled = false → Obstacle isPerl c u .disabled
  | notAFile : isPerl → c.enabled = true → u.filePath? = none → Obstacle isPerl c u .notAFile

/-- Nothing stands in the way of a lint. -/
structure Clear (isPerl : Prop) (c : Config) (u : Uri) : Prop where
  perl : isPerl
  enabled : c.enabled = true
  file : u.filePath?.isSome

theorem clear_or_obstacle (isPerl : Prop) (c : Config) (u : Uri) :
    Clear isPerl c u ∨ ∃ why, Obstacle isPerl c u why := by
  by_cases hperl : isPerl
  · cases henabled : c.enabled with
    | false => exact .inr ⟨_, .disabled hperl henabled⟩
    | true =>
        cases hfile : u.filePath? with
        | none => exact .inr ⟨_, .notAFile hperl henabled hfile⟩
        | some path => exact .inl ⟨hperl, henabled, by rw [hfile]; rfl⟩
  · exact .inr ⟨_, .notPerl hperl⟩

variable {c : Config} {known : Option String} {why : SkipReason}

theorem Obstacle.admission_eq (h : Obstacle (isPerl known u) c u why) (root : Option String) :
    Server.admission c root known u = .error why := by
  cases h with
  | notPerl hperl => simp [Server.admission, hperl]
  | disabled hperl hoff => simp [Server.admission, hperl, hoff]
  | notAFile hperl hon hfile => simp [Server.admission, hperl, hon, hfile]

theorem Clear.admission_eq (h : Clear (isPerl known u) c u) (root : Option String) :
    ∃ path, u.filePath? = some path ∧
      Server.admission c root known u = .ok (.make c path root) := by
  obtain ⟨path, hfile⟩ := Option.isSome_iff_exists.1 h.file
  exact ⟨path, hfile, by simp [Server.admission, h.perl, h.enabled, hfile]⟩

/-- The critic is called for a lint: it cannot be started, it cannot be read from, or it runs up to
its first sleep or to its end. -/
def callCritic (r : Runner) (s : Session) (i : Nat) (u : Uri) (job : Job) : Session :=
  match r.start s.files job.invocation with
  | .error e => s.enter i ⟨u, .admitted job⟩ (.ended job (.error e))
  | .ok critic => s.follow i ⟨u, .admitted job⟩ job critic

/-- The lint with a number is skipped by an act. -/
structure Skips (acts : Nat → Act) (s : Nat → Session) (m i : Nat) (u : Uri) (why : SkipReason) :
    Prop where
  /-- It is over, and nothing else has changed. -/
  act : s (m + 1) = { s m with tasks := (s m).tasks.set i ⟨u, .finished (some (.skipped why))⟩ }
  /-- It stays so. -/
  finished : ∀ k, m < k → (s k).tasks[i]? = some ⟨u, .finished (some (.skipped why))⟩
  /-- Nothing happens when it steps. -/
  rest : ∀ k, m < k → acts k = .move (.steps i) → s (k + 1) = s k

/-- The lint with a number is admitted by an act: it takes a ticket, and at its next step it calls
the critic. -/
def Admits (r : Runner) (acts : Nat → Act) (s : Nat → Session) (m i : Nat) (u : Uri) : Prop :=
  let server := (s m).server
  ∃ path, u.filePath? = some path ∧
    let job : Job := ⟨(server.store.start u).1, server.config, .make server.config path server.root⟩
    s (m + 1) =
      { s m with
        server := { server with store := (server.store.start u).2 }
        tasks := (s m).tasks.set i ⟨u, .admitted job⟩ } ∧
    (s (m + 1)).tasks[i]? = some ⟨u, .admitted job⟩ ∧
    ∀ k, NextStep acts m k i → s (k + 1) = (s k).callCritic r i u job

theorem skips_of_obstacle (ha : acts m = .move (.steps i))
    (ht : (course r files acts m).tasks[i]? = some ⟨u, .requested known⟩)
    (h : Obstacle (isPerl known u) (course r files acts m).server.config u why) :
    Skips acts (course r files acts) m i u why := by
  have hact : course r files acts (m + 1) = (course r files acts m).enter i ⟨u, .requested known⟩
      (.finished (some (.skipped why))) := by
    rw [course_step ha ht, stepTask]
    dsimp only
    rw [Server.startLint_eq, h.admission_eq]
    rfl
  have hrest : ∀ k, acts k = .move (.steps i) →
      (course r files acts k).tasks[i]? = some ⟨u, .finished (some (.skipped why))⟩ →
      course r files acts (k + 1) = course r files acts k := by
    intro k hk hover
    rw [course_step hk hover, stepTask]
  have hover : ∀ k, m < k →
      (course r files acts k).tasks[i]? = some ⟨u, .finished (some (.skipped why))⟩ := by
    intro k hmk
    induction k, hmk using Nat.le_induction with
    | base =>
        rw [hact]
        exact enter_getElem? ht rfl
    | succ k hmk ih =>
        by_cases hk : acts k = .move (.steps i)
        · rwa [hrest k hk ih]
        · exact (untouched_perform r _ hk).getElem? ih
  exact ⟨hact, hover, fun k hmk hk => hrest k hk (hover k hmk)⟩

theorem admits_of_clear (ha : acts m = .move (.steps i))
    (ht : (course r files acts m).tasks[i]? = some ⟨u, .requested known⟩)
    (h : Clear (isPerl known u) (course r files acts m).server.config u) :
    Admits r acts (course r files acts) m i u := by
  obtain ⟨path, hfile, hadmission⟩ := h.admission_eq (course r files acts m).server.root
  let server := (course r files acts m).server
  let job : Job := ⟨(server.store.start u).1, server.config, .make server.config path server.root⟩
  have hact : course r files acts (m + 1) =
      { course r files acts m with
        server := { server with store := (server.store.start u).2 } }.enter i
          ⟨u, .requested known⟩ (.admitted job) := by
    rw [course_step ha ht, stepTask]
    dsimp only
    rw [Server.startLint_eq, hadmission]
    rfl
  have hadmitted : (course r files acts (m + 1)).tasks[i]? = some ⟨u, .admitted job⟩ := by
    rw [hact]
    exact enter_getElem? ht rfl
  refine ⟨path, hfile, hact, hadmitted, fun k hk => ?_⟩
  rw [course_step hk.act (hk.getElem? hadmitted)]
  rfl

/-- A lint that is skipped is not admitted. -/
theorem Skips.not_admits {s : Nat → Session} (h : Skips acts s m i u why) :
    ¬ Admits r acts s m i u := by
  rintro ⟨path, -, -, hadmitted, -⟩
  have hover := h.finished (m + 1) (Nat.lt_succ_self m)
  rw [hadmitted] at hover
  cases hover

/-- A lint is skipped for one reason. -/
theorem Skips.unique {s : Nat → Session} {why' : SkipReason} (h : Skips acts s m i u why)
    (h' : Skips acts s m i u why') : why = why' := by
  have hover := h.finished (m + 1) (Nat.lt_succ_self m)
  rw [h'.finished (m + 1) (Nat.lt_succ_self m)] at hover
  cases hover
  rfl

/-- A document that is opened or saved gets a lint.  When the lint starts it is admitted if the
document counts as Perl at the notification, linting is on, and the document names a file.
Otherwise it is skipped, for the first of these that fails. -/
theorem lint_asked_for (r : Runner) (files : Files) (acts : Nat → Act) (n : Nat) (u : Uri)
    (hasks : (acts n).AsksFor u) :
    let s := course r files acts
    let i := (s n).tasks.length
    ((∃ known, (s (n + 1)).tasks = (s n).tasks ++ [⟨u, .requested known⟩]) ∧
      (s (n + 1)).server.store = (s n).server.store) ∧
    ∀ m, NextStep acts n m i →
      (Admits r acts s m i u ↔ Clear (CountsAsPerl acts (n + 1) u) (s m).server.config u) ∧
      ∀ why, Skips acts s m i u why ↔
        Obstacle (CountsAsPerl acts (n + 1) u) (s m).server.config u why := by
  intro s i
  obtain ⟨htasks, hstore⟩ := hasks.perform r (s n)
  refine ⟨⟨⟨_, htasks⟩, hstore⟩, ?_⟩
  intro m hm
  have htask : (s (n + 1)).tasks[i]? = some ⟨u, .requested ((s (n + 1)).server.language? u)⟩ := by
    rw [show (s (n + 1)).tasks = _ from htasks]
    exact List.getElem?_concat_length
  have hperl := propext (isPerl_language?_iff r files acts (n + 1) u)
  have hadmits : Clear (CountsAsPerl acts (n + 1) u) (s m).server.config u →
      Admits r acts s m i u := by
    rw [← hperl]
    exact admits_of_clear hm.act (hm.getElem? htask)
  have hskips : ∀ {why}, Obstacle (CountsAsPerl acts (n + 1) u) (s m).server.config u why →
      Skips acts s m i u why := by
    rw [← hperl]
    exact skips_of_obstacle hm.act (hm.getElem? htask)
  refine ⟨⟨fun h => ?_, hadmits⟩, fun why => ⟨fun h => ?_, hskips⟩⟩
  · rcases clear_or_obstacle (CountsAsPerl acts (n + 1) u) (s m).server.config u with
      hclear | ⟨why, hwhy⟩
    · exact hclear
    · exact absurd h (hskips hwhy).not_admits
  · rcases clear_or_obstacle (CountsAsPerl acts (n + 1) u) (s m).server.config u with
      hclear | ⟨why', hwhy⟩
    · exact absurd (hadmits hclear) h.not_admits
    · rwa [h.unique (hskips hwhy)]

/-- A document is opened in Perl, opened again in another language, closed, and saved.  The first
two lints start, linting is switched off, and the last one starts. -/
def reopenedActs : List Act :=
  [.request "initialize" (some (.ofMembers [("capabilities", .ofMembers [])])),
    .move (.opens Store.sampleDocument "perl"), .move (.opens Store.sampleDocument "python"),
    .move (.closes Store.sampleDocument), .move (.saves Store.sampleDocument),
    .move (.steps 0), .move (.steps 1),
    .move (.settings (.ofMembers [("enabled", .bool false)])), .move (.steps 3)]

/-- The first lint is admitted.  The second one is skipped because of the language, and the last one
because linting is off: the document was closed, so its name counted. -/
theorem lint_asked_for_reopened :
    let acts : Nat → Act := fun n => (reopenedActs[n]?).getD .exit
    let s := course sampleRunner sampleFiles acts
    Admits sampleRunner acts s 5 0 Store.sampleDocument ∧
      Skips acts s 6 1 Store.sampleDocument .notPerl ∧
      Skips acts s 8 3 Store.sampleDocument .disabled := by
  intro acts s
  have hperl : ∀ n, isPerl ((s n).server.language? Store.sampleDocument) Store.sampleDocument
      ↔ CountsAsPerl acts n Store.sampleDocument := fun n =>
    isPerl_language?_iff sampleRunner sampleFiles acts n Store.sampleDocument
  have hlengths : (s 1).tasks.length = 0 ∧ (s 2).tasks.length = 1 ∧ (s 4).tasks.length = 3 := by
    decide +kernel
  have hfirst : NextStep acts 1 5 0 := by
    refine ⟨by decide, rfl, fun l hl hl' => ?_⟩
    interval_cases l <;> nofun
  have hsecond : NextStep acts 2 6 1 := by
    refine ⟨by decide, rfl, fun l hl hl' => ?_⟩
    interval_cases l <;> nofun
  have hlast : NextStep acts 4 8 3 := by
    refine ⟨by decide, rfl, fun l hl hl' => ?_⟩
    interval_cases l <;> nofun
  have hadmits := (lint_asked_for sampleRunner sampleFiles acts 1 Store.sampleDocument
    (.inr ⟨"perl", rfl⟩)).2 5
  have hnotPerl := (lint_asked_for sampleRunner sampleFiles acts 2 Store.sampleDocument
    (.inr ⟨"python", rfl⟩)).2 6
  have hdisabled := (lint_asked_for sampleRunner sampleFiles acts 4 Store.sampleDocument
    (.inl rfl)).2 8
  change NextStep acts 1 5 (s 1).tasks.length → _ at hadmits
  change NextStep acts 2 6 (s 2).tasks.length → _ at hnotPerl
  change NextStep acts 4 8 (s 4).tasks.length → _ at hdisabled
  rw [hlengths.1] at hadmits
  rw [hlengths.2.1] at hnotPerl
  rw [hlengths.2.2] at hdisabled
  refine ⟨(hadmits hfirst).1.2 ⟨?_, ?_, ?_⟩, ((hnotPerl hsecond).2 _).2 (.notPerl ?_),
    ((hdisabled hlast).2 _).2 (.disabled ?_ ?_)⟩
  · exact (hperl 2).1 (by decide +kernel)
  · decide +kernel
  · decide +kernel
  · exact mt (hperl 3).2 (by decide +kernel)
  · exact (hperl 5).1 (by decide +kernel)
  · decide +kernel

end Session

end PerlLint
