import Mathlib.Logic.Function.Basic
import PerlLint.Proofs.Session.Closing
import PerlLint.Proofs.Session.Course
import PerlLint.Proofs.Store.Numbering

/-!
# Taking a lint out

A lint that is not accepted has taken a ticket all the same, and may have opened the slot of its
document.  Here it is shown that nobody notices.

Of a session only the store and the progress of the lints matter for this.  `Lints` has just
these, and a *happening* is what changes them.  What the critic answers is part of the happening,
so the happenings can be gone through again without those of one lint.  `Without` relates what
comes of them to what came of them before: the stores are alike for every document, and so are the
other lints, but for the numbers of their tickets.

In a session each act has its happenings, and `lints_course` says that what comes of the lints
along a course is what comes of these.  So `course_unaccepted_unnoticed` says the same of courses.
-/

namespace PerlLint

open Host

/-- How far a lint is that has been admitted or skipped. -/
inductive Progress where
  /-- It has its ticket. -/
  | running (job : Job)
  /-- It has its outcome. -/
  | settled (outcome : LintOutcome)
deriving DecidableEq

/-- The ticket of a lint that is under way. -/
def Progress.ticket? : Progress → Option Ticket
  | running job => some job.ticket
  | settled _ => none

/-- Lints, by their numbers, and the store that they share. -/
structure Lints where
  /-- The store. -/
  store : Store
  /-- How far each lint is, if it has begun. -/
  progress : Nat → Option Progress

/-- Something that happens to lints or to their store. -/
inductive Happening where
  /-- A lint is begun, with a configuration and a directory of the workspace. -/
  | begun (i : Nat) (config : Config) (root language : Option String) (u : Uri)
  /-- The critic of a lint is done. -/
  | answered (i : Nat) (result : Except LintError (List Record))
  /-- A document is closed. -/
  | closed (u : Uri)
  /-- All documents are closed. -/
  | disposed

/-- The lint that something happens to. -/
def Happening.lint? : Happening → Option Nat
  | begun i _ _ _ _ | answered i _ => some i
  | closed _ | disposed => none

namespace Lints

/-- No lints. -/
def new : Lints := ⟨.empty, fun _ => none⟩

/-- What comes of a happening.  A lint is begun once and settled once. -/
def happen (l : Lints) : Happening → Lints
  | .begun i config root language u =>
      match l.progress i with
      | some _ => l
      | none =>
          let s : Server := { Server.empty with config, root, store := l.store }
          match s.startLint language u with
          | .error why =>
              { l with progress := Function.update l.progress i (some (.settled (.skipped why))) }
          | .ok (job, server) =>
              ⟨server.store, Function.update l.progress i (some (.running job))⟩
  | .answered i result =>
      match l.progress i with
      | some (.running job) =>
          let s : Server := { Server.empty with store := l.store }
          let (outcome, server) := s.settle job result
          ⟨server.store, Function.update l.progress i (some (.settled outcome))⟩
      | _ => l
  | .closed u => { l with store := (l.store.clear u).2 }
  | .disposed => { l with store := l.store.dispose }

/-- What comes of one happening after the other. -/
def run (l : Lints) (es : List Happening) : Lints := es.foldl happen l

end Lints

/-! ## Beginning and settling a lint -/

namespace Server

/-- The invocation of the critic for a document, or why there is none. -/
def admission (config : Config) (root language : Option String) (u : Uri) :
    Except SkipReason Invocation :=
  if !isPerl language u then .error .notPerl
  else if !config.enabled then .error .disabled
  else
    match u.filePath? with
    | none => .error .notAFile
    | some path => .ok (.make config path root)

/-- Whether a lint is admitted does not depend on the store. -/
theorem startLint_eq (s : Server) (language : Option String) (u : Uri) :
    s.startLint language u = (admission s.config s.root language u).map fun invocation =>
      (⟨⟨u, s.store.lastNumber + 1⟩, s.config, invocation⟩,
        { s with store := (s.store.start u).2 }) := by
  unfold startLint admission
  split
  case isTrue => rfl
  case isFalse =>
    split
    case isTrue => rfl
    case isFalse =>
      cases u.filePath? with
      | none => rfl
      | some path => rfl

/-- The outcome of a lint that the store gives an answer to. -/
def outcomeOf (count : Nat) : PublishOutcome → LintOutcome
  | .published => .published count
  | .stale => .stale
  | .closed => .closed

/-- A lint is settled by the answer of the store. -/
theorem settle_ok (s : Server) (job : Job) (records : List Record) :
    s.settle job (.ok records) =
      let ds := records.map (Diagnostic.ofRecord job.config)
      (outcomeOf ds.length (s.store.publish job.ticket ds).1,
        { s with store := (s.store.publish job.ticket ds).2 }) := by
  simp only [settle]
  split <;> simp_all [outcomeOf]

end Server

namespace Lints

variable {l l' : Lints} {e : Happening} {es : List Happening} {i j : Nat} {u : Uri}

/-! ## Two runs -/

/-- Lints that are equally far.  Their tickets may have other numbers. -/
inductive EquallyFar : Option Progress → Option Progress → Prop where
  | absent : EquallyFar none none
  | running {u : Uri} {n n' : Nat} {config : Config} {invocation : Invocation} :
    EquallyFar (some (.running ⟨⟨u, n⟩, config, invocation⟩))
      (some (.running ⟨⟨u, n'⟩, config, invocation⟩))
  | settled {outcome : LintOutcome} :
    EquallyFar (some (.settled outcome)) (some (.settled outcome))

/-- The tickets of a lint that is under way. -/
def Paired (p p' : Option Progress) (u : Uri) (n n' : Nat) : Prop :=
  p.bind Progress.ticket? = some ⟨u, n⟩ ∧ p'.bind Progress.ticket? = some ⟨u, n'⟩

/-- The tickets of the lints other than `i` that are under way. -/
def Pairs (i : Nat) (l l' : Lints) (u : Uri) (n n' : Nat) : Prop :=
  ∃ j ≠ i, Paired (l.progress j) (l'.progress j) u n n'

/-- Lints, and what there is without the one with the number `i`. -/
structure Without (i : Nat) (l l' : Lints) : Prop where
  /-- The other lints are equally far. -/
  progress : ∀ j ≠ i, EquallyFar (l.progress j) (l'.progress j)
  /-- The other lints cannot tell the stores apart. -/
  store : ∀ u, Store.Alike u (Pairs i l l' u) l.store l'.store

theorem without_new (i : Nat) : Without i new new where
  progress := fun _ _ => .absent
  store := by
    intro u
    have hno : ∀ {n n'}, ¬ Pairs i new new u n n' := by
      rintro n n' ⟨j, -, hp, -⟩
      cases hp
    exact .of_none rfl rfl ⟨fun h => absurd h hno, fun h => absurd h hno, fun h => absurd h hno⟩

/-- A lint that is settled has no tickets any more. -/
theorem not_paired_settled {outcome outcome' : LintOutcome} {n n' : Nat} :
    ¬ Paired (some (.settled outcome)) (some (.settled outcome')) u n n' := by
  rintro ⟨h, -⟩
  cases h

/-- A lint goes on in both runs. -/
theorem Without.update {p p' : Option Progress} {s s' : Store} (h : Without i l l')
    (hp : EquallyFar p p')
    (hs : ∀ u, Store.Alike u (fun n n' => Pairs i l l' u n n' ∨ Paired p p' u n n') s s') :
    Without i ⟨s, Function.update l.progress j p⟩ ⟨s', Function.update l'.progress j p'⟩ where
  progress := by
    intro k hk
    by_cases hkj : k = j
    · subst hkj
      simpa only [Function.update_self] using hp
    · simpa only [Function.update_of_ne hkj] using h.progress k hk
  store := by
    intro u
    refine (hs u).mono fun n n' hn => ?_
    obtain ⟨k, hk, hpair⟩ := hn
    by_cases hkj : k = j
    · subst hkj
      simp only [Function.update_self] at hpair
      exact .inr hpair
    · simp only [Function.update_of_ne hkj] at hpair
      exact .inl ⟨k, hk, hpair⟩

/-- Another lint is begun. -/
theorem Without.begun (h : Without i l l') (hj : j ≠ i) (config : Config)
    (root language : Option String) (u : Uri) :
    Without i (l.happen (.begun j config root language u))
      (l'.happen (.begun j config root language u)) := by
  have hprogress := h.progress j hj
  generalize hp : l.progress j = p at hprogress
  generalize hp' : l'.progress j = p' at hprogress
  cases hprogress with
  | running | settled =>
      simp only [happen, hp, hp']
      exact h
  | absent =>
      simp only [happen, hp, hp', Server.startLint_eq]
      cases Server.admission config root language u with
      | error why =>
          exact h.update .settled fun v =>
            (h.store v).mono fun n n' hn => hn.resolve_right not_paired_settled
      | ok invocation =>
          refine h.update .running fun v => ?_
          by_cases hv : v = u
          · subst hv
            refine (h.store v).start.mono fun n n' hn => hn.imp_right ?_
            rintro ⟨hn, hn'⟩
            cases hn
            cases hn'
            exact ⟨rfl, rfl⟩
          · refine ((h.store v).frame (Store.slots_start_ne _ hv) (Store.slots_start_ne _ hv)
              (Nat.le_succ _) (Nat.le_succ _)).mono fun n n' hn => hn.resolve_right ?_
            rintro ⟨hn, -⟩
            cases hn
            exact hv rfl

/-- The critic of another lint is done. -/
theorem Without.answered (h : Without i l l') (hj : j ≠ i)
    (result : Except LintError (List Record)) :
    Without i (l.happen (.answered j result)) (l'.happen (.answered j result)) := by
  have hprogress := h.progress j hj
  generalize hp : l.progress j = p at hprogress
  generalize hp' : l'.progress j = p' at hprogress
  cases hprogress with
  | absent | settled =>
      simp only [happen, hp, hp']
      exact h
  | @running u n n' config invocation =>
      simp only [happen, hp, hp']
      cases result with
      | error e =>
          exact h.update .settled fun v =>
            (h.store v).mono fun n n' hn => hn.resolve_right not_paired_settled
      | ok records =>
          rw [Server.settle_ok, Server.settle_ok]
          have hpair : Pairs i l l' u n n' := by
            refine ⟨j, hj, ?_⟩
            rw [hp, hp']
            exact ⟨rfl, rfl⟩
          obtain ⟨hanswer, halike⟩ :=
            (h.store u).publish hpair (records.map (Diagnostic.ofRecord config))
          dsimp only
          rw [hanswer]
          refine h.update .settled fun v => ?_
          by_cases hv : v = u
          · subst hv
            exact halike.mono fun n n' hn => hn.resolve_right not_paired_settled
          · refine ((h.store v).frame (Store.slots_publish_ne hv) (Store.slots_publish_ne hv)
              ?_ ?_).mono fun n n' hn => hn.resolve_right not_paired_settled
            · rw [Store.publish_lastNumber]
            · rw [Store.publish_lastNumber]

/-- What happens to another lint, or to the store, makes no difference. -/
theorem Without.happen (h : Without i l l') (he : e.lint? ≠ some i) :
    Without i (l.happen e) (l'.happen e) := by
  cases e with
  | begun j config root language u => exact h.begun (fun hj => he (congrArg some hj)) ..
  | answered j result => exact h.answered (fun hj => he (congrArg some hj)) _
  | closed u =>
      refine ⟨h.progress, fun v => ?_⟩
      by_cases hv : v = u
      · subst hv
        exact (h.store v).clear
      · exact (h.store v).frame (Store.slots_clear_ne _ hv) (Store.slots_clear_ne _ hv)
          (Nat.le_refl _) (Nat.le_refl _)
  | disposed => exact ⟨h.progress, fun v => (h.store v).dispose⟩

/-- What happens to the lint that is taken out makes no difference, unless it is accepted. -/
theorem Without.skip (h : Without i l l') (he : e.lint? = some i)
    (hi : ∀ count, (l.happen e).progress i ≠ some (.settled (.published count))) :
    Without i (l.happen e) l' := by
  have hkeep : ∀ {p : Option Progress} {s : Store},
      (∀ u, Store.Alike u (Pairs i l l' u) s l'.store) →
      Without i ⟨s, Function.update l.progress i p⟩ l' := by
    intro p s hs
    constructor
    case progress =>
      intro k hk
      simpa only [Function.update_of_ne hk] using h.progress k hk
    case store =>
      intro u
      refine (hs u).mono fun n n' hn => ?_
      obtain ⟨k, hk, hpair⟩ := hn
      simp only [Function.update_of_ne hk] at hpair
      exact ⟨k, hk, hpair⟩
  cases e with
  | begun j config root language u =>
      cases he
      simp only [Lints.happen, Server.startLint_eq] at hi ⊢
      cases hp : l.progress i with
      | some p => exact h
      | none =>
          cases Server.admission config root language u with
          | error why => exact hkeep h.store
          | ok invocation => exact hkeep fun v => (h.store v).start_left u
  | answered j result =>
      cases he
      simp only [Lints.happen] at hi ⊢
      cases hp : l.progress i with
      | none => exact h
      | some p =>
          cases p with
          | settled outcome => exact h
          | running job =>
              simp only [hp, Function.update_self] at hi
              obtain ⟨-, hs⟩ | ⟨ds, houtcome, -, -⟩ :=
                ({ Server.empty with store := l.store } : Server).settle_cases job result
              · dsimp only
                rw [hs]
                exact hkeep h.store
              · rw [houtcome] at hi
                exact absurd rfl (hi _)
  | closed u => cases he
  | disposed => cases he

/-! ## Whole runs -/

/-- An outcome is final. -/
theorem progress_happen {outcome : LintOutcome} (h : l.progress i = some (.settled outcome))
    (e : Happening) : (l.happen e).progress i = some (.settled outcome) := by
  have hother : ∀ {j p}, l.progress j ≠ some (.settled outcome) →
      Function.update l.progress j p i = some (.settled outcome) := by
    intro j p hne
    have hij : i ≠ j := by
      rintro rfl
      exact hne h
    rw [Function.update_of_ne hij, h]
  cases e with
  | begun j config root language u =>
      simp only [happen]
      cases hp : l.progress j with
      | some p => exact h
      | none =>
          have hne : l.progress j ≠ some (.settled outcome) := by
            rw [hp]
            exact nofun
          dsimp only
          split
          · exact hother hne
          · exact hother hne
  | answered j result =>
      simp only [happen]
      split
      case h_1 job hp =>
        refine hother ?_
        rw [hp]
        exact nofun
      case h_2 => exact h
  | closed u => exact h
  | disposed => exact h

theorem progress_run {outcome : LintOutcome} (h : l.progress i = some (.settled outcome)) :
    (l.run es).progress i = some (.settled outcome) := by
  induction es generalizing l with
  | nil => exact h
  | cons e es ih => exact ih (progress_happen h e)

theorem run_append (es es' : List Happening) : l.run (es ++ es') = (l.run es).run es' :=
  List.foldl_append

/-- A lint that is not accepted can be taken out of a run. -/
theorem Without.run (h : Without i l l')
    (hi : ∀ count, (l.run es).progress i ≠ some (.settled (.published count))) :
    Without i (l.run es) (l'.run (es.filter fun e => e.lint? ≠ some i)) := by
  induction es generalizing l l' with
  | nil => exact h
  | cons e es ih =>
      by_cases he : e.lint? = some i
      -- An outcome is final, so the lint is not accepted by this happening either.
      · have hno : ∀ count, (l.happen e).progress i ≠ some (.settled (.published count)) := by
          intro count hcount
          have hfinal : ((l.happen e).run es).progress i = _ := progress_run hcount
          exact hi count hfinal
        rw [List.filter_cons_of_neg (by simpa using he)]
        exact ih (h.skip he hno) hi
      · rw [List.filter_cons_of_pos (by simpa using he)]
        exact ih (h.happen he) hi

/-- A lint that is not accepted can be taken out of each part of a run, from the beginning on. -/
theorem without_of_isPrefix {part : List Happening} (hpart : part <+: es)
    (hi : ∀ count, (new.run es).progress i ≠ some (.settled (.published count))) :
    Without i (new.run part) (new.run (part.filter fun e => e.lint? ≠ some i)) := by
  obtain ⟨rest, rfl⟩ := hpart
  refine (without_new i).run fun count hcount => hi count ?_
  rw [run_append]
  exact progress_run hcount

/-- Without the lint the diagnostics of every document are the same. -/
theorem Without.get?_eq (h : Without i l l') (u : Uri) : l'.store.get? u = l.store.get? u :=
  (h.store u).get?_eq

/-- Without the lint the outcomes of the others are the same. -/
theorem Without.settled_iff (h : Without i l l') (hj : j ≠ i) (outcome : LintOutcome) :
    l'.progress j = some (.settled outcome) ↔ l.progress j = some (.settled outcome) := by
  have halike := h.progress j hj
  generalize l.progress j = p at halike ⊢
  generalize l'.progress j = p' at halike ⊢
  cases halike with
  | absent => rfl
  | running => simp
  | settled => rfl

/-- Nobody notices a lint that is not accepted.  Without it the diagnostics of every document are
the same at each point of the run, and so are the outcomes of the other lints.  When something
happens to it no diagnostics change. -/
theorem unaccepted_unnoticed {before : List Happening} (hb : before <+: es)
    (hi : ∀ count, (new.run es).progress i ≠ some (.settled (.published count))) :
    (∀ u, (new.run (before.filter fun e => e.lint? ≠ some i)).store.get? u
      = (new.run before).store.get? u) ∧
    (∀ j ≠ i, ∀ outcome,
      (new.run (before.filter fun e => e.lint? ≠ some i)).progress j = some (.settled outcome) ↔
        (new.run before).progress j = some (.settled outcome)) ∧
    (∀ e, e.lint? = some i → before ++ [e] <+: es → ∀ u,
      (new.run (before ++ [e])).store.get? u = (new.run before).store.get? u) := by
  have hwithout := without_of_isPrefix hb hi
  refine ⟨hwithout.get?_eq, fun j hj => hwithout.settled_iff hj, fun e he hbe u => ?_⟩
  have hsame : (before ++ [e]).filter (fun e => e.lint? ≠ some i)
      = before.filter fun e => e.lint? ≠ some i := by
    rw [List.filter_append, List.filter_cons_of_neg (by simpa using he), List.filter_nil,
      List.append_nil]
  rw [← (without_of_isPrefix hbe hi).get?_eq, hsame, hwithout.get?_eq]

/-- A lint of a document is asked for, then another one.  The critic cannot be started for the
second one.  Then the first one is done. -/
def newerFails : List Happening :=
  [.begun 0 .standard none (some "perl") Store.sampleDocument,
    .begun 1 .standard none (some "perl") Store.sampleDocument,
    .answered 1 (.error (.start "perlcritic" "not found")), .answered 0 (.ok [])]

/-- The first lint is accepted, with the second one and without it. -/
theorem unaccepted_unnoticed_newerFails :
    (∀ count, (new.run newerFails).progress 1 ≠ some (.settled (.published count))) ∧
    (new.run newerFails).progress 0 = some (.settled (.published 0)) ∧
    (new.run (newerFails.filter fun e => e.lint? ≠ some 1)).progress 0
      = some (.settled (.published 0)) := by
  have hfails : (new.run newerFails).progress 1
      = some (.settled (.failed (.start "perlcritic" "not found"))) := by
    decide +kernel
  have hno : ∀ count, (new.run newerFails).progress 1 ≠ some (.settled (.published count)) := by
    intro count
    rw [hfails]
    exact nofun
  have haccepted : (new.run newerFails).progress 0 = some (.settled (.published 0)) := by
    decide +kernel
  exact ⟨hno, haccepted,
    ((unaccepted_unnoticed (List.prefix_refl _) hno).2.1 0 (by decide) _).2 haccepted⟩

end Lints

/-! ## The lints of a session -/

/-- How far the lint is whose task is in a stage, if it is the task of a lint. -/
def Stage.progress? (stage : Stage) : Option Progress :=
  match stage.job? with
  | some job => some (.running job)
  | none => stage.outcome?.map .settled

namespace Session

variable {r : Runner} {s s' : Session} {i : Nat} {t : Task}

/-- The lints of a session. -/
def lints (s : Session) : Lints :=
  ⟨s.server.store, fun i => s.tasks[i]?.bind fun t => t.stage.progress?⟩

theorem lints_progress (ht : s.tasks[i]? = some t) : s.lints.progress i = t.stage.progress? := by
  rw [lints]
  dsimp only
  rw [ht, Option.bind_some]

theorem lints_enter {stage : Stage} (ht : s.tasks[i]? = some t) (hs : s'.tasks = s.tasks) :
    (s'.enter i t stage).lints
      = ⟨s'.server.store, Function.update s.lints.progress i stage.progress?⟩ := by
  have hlt := (List.getElem?_eq_some_iff.1 ht).1
  simp only [lints, enter_server, enter_tasks, hs, Lints.mk.injEq, true_and]
  funext j
  by_cases hj : j = i
  · subst hj
    rw [Function.update_self, List.getElem?_set_self hlt, Option.bind_some]
  · rw [Function.update_of_ne hj, List.getElem?_set_ne (Ne.symm hj)]

/-- A task that gets to a stage in which the lint is as far changes nothing. -/
theorem lints_enter_of_eq {stage : Stage} (ht : s.tasks[i]? = some t) (hs : s'.tasks = s.tasks)
    (hstore : s'.server.store = s.server.store) (hp : stage.progress? = t.stage.progress?) :
    (s'.enter i t stage).lints = s.lints := by
  rw [lints_enter ht hs, hstore, hp, ← lints_progress ht, Function.update_eq_self]
  rfl

/-- A new task has not begun. -/
theorem lints_append (ht : t.stage.progress? = none) (hs : s'.tasks = s.tasks ++ [t]) :
    s'.lints = ⟨s'.server.store, s.lints.progress⟩ := by
  simp only [lints, hs, Lints.mk.injEq, true_and]
  funext j
  rcases Nat.lt_or_ge j s.tasks.length with hlt | hge
  · rw [List.getElem?_append_left hlt]
  · rw [List.getElem?_append_right hge, List.getElem?_eq_none hge, Option.bind_none]
    cases hj : [t][j - s.tasks.length]? with
    | none => rfl
    | some t' =>
        cases List.mem_singleton.1 (List.mem_of_getElem? hj)
        exact ht

theorem progress?_of_job? {stage : Stage} {job : Job} (h : stage.job? = some job) :
    stage.progress? = some (.running job) := by
  rw [Stage.progress?, h]

/-- Apart from the beginning and the decision of the store, steps of a task change nothing. -/
theorem Advance.lints_eq (h : Advance s i t s') (ht : s.tasks[i]? = some t)
    (hr : ∀ language, t.stage ≠ .requested language)
    (he : ∀ job result, t.stage ≠ .ended job result) : s'.lints = s.lints := by
  cases h with
  | skip hstage | start hstage _ => exact absurd hstage (hr _)
  | settle hstage => exact absurd hstage (he _ _)
  | run files hj hj' =>
      exact lints_enter_of_eq ht rfl rfl
        ((progress?_of_job? hj').trans (progress?_of_job? hj).symm)
  | rearm hstage _ | drop hstage _ | lock hstage _ | read hstage | release hstage =>
      exact lints_enter_of_eq ht rfl rfl (by rw [hstage]; rfl)
  | fail hstage _ hstore => exact lints_enter_of_eq ht rfl hstore (by rw [hstage]; rfl)
  | warn text hstage _ hstore =>
      exact lints_enter_of_eq ht (by exact send_tasks _ _)
        ((congrArg Server.store (send_server _ _)).trans hstore) (by rw [hstage]; rfl)
  | tell hstage =>
      exact lints_enter_of_eq ht (send_tasks _ _) (congrArg Server.store (send_server _ _))
        (by rw [hstage]; rfl)

/-- What the next step of a task does to the lints. -/
def taskHappenings (s : Session) (i : Nat) (t : Task) : List Happening :=
  match t.stage with
  | .requested language => [.begun i s.server.config s.server.root language t.uri]
  | .ended _ result => [.answered i result]
  | _ => []

/-- What an act does to the lints. -/
def Act.happenings (s : Session) : Act → List Happening
  | .move (.closes u) => [.closed u]
  | .move (.steps i) => (s.tasks[i]?.map (s.taskHappenings i)).getD []
  | .request method params =>
      if s.phase = .ready ∧ method = "shutdown" ∧ params = none then [.disposed] else []
  | _ => []

theorem lints_stepTask (r : Runner) (ht : s.tasks[i]? = some t) :
    (s.stepTask r i t).lints = s.lints.run (s.taskHappenings i t) := by
  have hold := lints_progress ht
  by_cases hr : ∃ language, t.stage = .requested language
  · obtain ⟨language, hstage⟩ := hr
    have hnone : s.lints.progress i = none := by rw [hold, hstage]; rfl
    simp only [taskHappenings, stepTask, hstage, Lints.run, List.foldl_cons, List.foldl_nil,
      Lints.happen, hnone, Server.startLint_eq]
    cases Server.admission s.server.config s.server.root language t.uri with
    | error why => exact lints_enter ht rfl
    | ok invocation => exact lints_enter ht rfl
  by_cases he : ∃ job result, t.stage = .ended job result
  · obtain ⟨job, result, hstage⟩ := he
    have hrunning : s.lints.progress i = some (.running job) := by rw [hold, hstage]; rfl
    simp only [taskHappenings, stepTask, hstage, Lints.run, List.foldl_cons, List.foldl_nil,
      Lints.happen, hrunning]
    cases result with
    | error e => exact lints_enter ht rfl
    | ok records =>
        rw [Server.settle_ok, Server.settle_ok]
        exact lints_enter ht rfl
  · have hnothing : s.taskHappenings i t = [] := by
      unfold taskHappenings
      split
      case h_1 language hl => exact absurd ⟨language, hl⟩ hr
      case h_2 job result hl => exact absurd ⟨job, result, hl⟩ he
      case h_3 => rfl
    rw [hnothing]
    obtain hs | hadvance := s.stepTask_cases r i t
    · rw [hs]
      rfl
    · exact hadvance.lints_eq ht (fun language hl => hr ⟨language, hl⟩)
        fun job result hl => he ⟨job, result, hl⟩

/-- An act does to the lints what its happenings say. -/
theorem lints_perform (r : Runner) (s : Session) (a : Act) :
    (a.perform r s).lints = s.lints.run (a.happenings s) := by
  cases a with
  | move m =>
      cases m with
      | opens u language | saves u | lints u language => exact lints_append rfl rfl
      | closes u => exact lints_append rfl rfl
      | settings v | watches changed | ready =>
          simp [Act.perform, Act.happenings, Move.perform, lints, Lints.run]
      | disk files | faults fault => rfl
      | steps i =>
          rw [Act.perform, Move.perform, step, Act.happenings]
          cases ht : s.tasks[i]? with
          | none => rfl
          | some t => exact lints_stepTask r ht
  | request method params =>
      rw [Act.perform, lints, (turned_request r s method params).tasks_eq, store_request,
        Act.happenings]
      split <;> rfl
  | stop =>
      rw [Act.perform]
      split <;> rfl
  | exit => rfl

/-- What happens to the lints along a course. -/
def happenings (r : Runner) (files : Files) (acts : Nat → Act) : Nat → List Happening
  | 0 => []
  | n + 1 => happenings r files acts n ++ (acts n).happenings (course r files acts n)

variable {files : Files} {acts : Nat → Act} {m n : Nat}

/-- The lints of a session are a run of what happens to them. -/
theorem lints_course (r : Runner) (files : Files) (acts : Nat → Act) (n : Nat) :
    (course r files acts n).lints = Lints.new.run (happenings r files acts n) := by
  induction n with
  | zero => rfl
  | succ n ih => rw [course, happenings, lints_perform, ih, Lints.run_append]

theorem happenings_of_isPrefix (h : m ≤ n) :
    happenings r files acts m <+: happenings r files acts n := by
  induction n, h using Nat.le_induction with
  | base => exact List.prefix_refl _
  | succ n _ ih => exact ih.trans (List.prefix_append _ _)

/-- What happens by a step of a task happens to its lint. -/
theorem lint?_of_mem_happenings {e : Happening} (h : e ∈ Act.happenings s (.move (.steps i))) :
    e.lint? = some i := by
  rw [Act.happenings] at h
  cases ht : s.tasks[i]? with
  | none => rw [ht] at h; cases h
  | some t =>
      rw [ht, Option.map_some, Option.getD_some, taskHappenings] at h
      split at h
      · cases List.mem_singleton.1 h
        rfl
      · cases List.mem_singleton.1 h
        rfl
      · cases h

/-- A step of a lint is not among what happens to the others. -/
theorem filter_happenings_succ (ha : acts n = .move (.steps i)) :
    (happenings r files acts (n + 1)).filter (fun e => e.lint? ≠ some i)
      = (happenings r files acts n).filter fun e => e.lint? ≠ some i := by
  have hnone : ((acts n).happenings (course r files acts n)).filter (fun e => e.lint? ≠ some i)
      = [] := by
    rw [ha, List.filter_eq_nil_iff]
    intro e he
    simpa using lint?_of_mem_happenings he
  rw [happenings, List.filter_append, hnone, List.append_nil]

/-- Nobody notices a lint of a session that has not been accepted.  If nothing had happened to it,
then at each point before every document would have the same diagnostics, and the other lints would
have the same outcomes.  Its steps change no diagnostics. -/
theorem course_unaccepted_unnoticed
    (hi : ∀ count,
      (course r files acts n).lints.progress i ≠ some (.settled (.published count)))
    (hmn : m ≤ n) :
    let others := (happenings r files acts m).filter fun e => e.lint? ≠ some i
    (∀ u, (Lints.new.run others).store.get? u = (course r files acts m).server.store.get? u) ∧
    (∀ j ≠ i, ∀ outcome, (Lints.new.run others).progress j = some (.settled outcome) ↔
      (course r files acts m).lints.progress j = some (.settled outcome)) ∧
    (m < n → acts m = .move (.steps i) → ∀ u,
      (course r files acts (m + 1)).server.store.get? u
        = (course r files acts m).server.store.get? u) := by
  intro others
  rw [lints_course] at hi
  have hwithout : ∀ {k}, k ≤ n → Lints.Without i (course r files acts k).lints
      (Lints.new.run ((happenings r files acts k).filter fun e => e.lint? ≠ some i)) := by
    intro k hk
    rw [lints_course]
    exact Lints.without_of_isPrefix (happenings_of_isPrefix hk) hi
  have hget := (hwithout hmn).get?_eq
  refine ⟨hget, fun j hj => (hwithout hmn).settled_iff hj, fun hlt ha u => ?_⟩
  have hnext := (hwithout (Nat.succ_le_of_lt hlt)).get?_eq u
  rw [filter_happenings_succ ha] at hnext
  exact hnext.symm.trans (hget u)

end Session

end PerlLint
