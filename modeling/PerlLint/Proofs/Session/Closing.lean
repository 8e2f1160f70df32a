import PerlLint.Proofs.Session.Notices

/-!
# After a close

A close ends the session of a document.  Results of lints from before are refused, since their
tickets are older than the slot that the document gets next.  But a lint takes its ticket only
at its first step, and until then nothing tells it from one that is asked for after the close.

Here is what follows when nothing more is asked for after the close.  `Shut` is the invariant:
of the lints from before the close, those that had their tickets cannot be accepted, and the
document has diagnostics just if one of the others, which are *late*, has been.  So the document
stays without diagnostics if and only if no late lint is accepted.  It does happen that one is.
-/

namespace PerlLint

/-- The outcome of a lint that is settled. -/
def Stage.outcome? : Stage → Option LintOutcome
  | .decided outcome => some outcome
  | .waiting o | .atGate o | .holding _ o | .sent o | .finished o => o
  | _ => none

/-- The diagnostics of a lint were accepted. -/
def Stage.isAccepted (stage : Stage) : Bool := stage.outcome?.any LintOutcome.isPublished

/-- A lint has its ticket, and the number of the ticket is `n` at most. -/
def Stage.IsOld (n : Nat) : Stage → Prop
  | .requested _ => False
  | .admitted job | .running job _ | .ended job _ => job.ticket.number ≤ n
  | _ => True

namespace Session

variable {r : Runner} {s s₀ s' : Session} {i n : Nat} {t : Task} {u v : Uri} {m : Move}
  {late : Nat → Prop}

theorem isOld_of_job? {stage : Stage} {job : Job} (h : stage.job? = some job) :
    stage.IsOld n ↔ job.ticket.number ≤ n := by
  cases stage with
  | admitted _ | running _ _ | ended _ _ =>
      cases h
      rfl
  | _ => cases h

theorem isAccepted_of_job? {stage : Stage} {job : Job} (h : stage.job? = some job) :
    stage.isAccepted = false := by
  cases stage with
  | admitted _ | running _ _ | ended _ _ => rfl
  | _ => cases h

theorem eq_published_of_isAccepted {o : Option LintOutcome} (h : (Stage.finished o).isAccepted) :
    ∃ count, o = some (.published count) := by
  cases o with
  | none => cases h
  | some outcome =>
      cases outcome with
      | published count => exact ⟨count, rfl⟩
      | _ => cases h

/-! ## Numbers of tickets -/

/-- The numbers of tickets have been used. -/
def Numbered (s : Session) : Prop :=
  ∀ t ∈ s.tasks, ∀ job, t.stage.job? = some job → job.ticket.number ≤ s.server.store.lastNumber

theorem IsInitialized.numbered (h : s.IsInitialized) : s.Numbered := by
  intro t ht
  rw [h.tasks] at ht
  cases ht

/-- A new task has no ticket. -/
theorem Numbered.append {stage : Stage} (h : s.Numbered)
    (hn : s'.server.store.lastNumber = s.server.store.lastNumber)
    (ht : s'.tasks = s.tasks ++ [⟨u, stage⟩]) (hs : stage.job? = none) : s'.Numbered := by
  intro t' ht' job hj
  rw [hn]
  rw [ht] at ht'
  rcases List.mem_append.1 ht' with hold | heq
  · exact h t' hold job hj
  · cases List.mem_singleton.1 heq
    rw [hs] at hj
    cases hj

/-- A task that enters a stage has a number that has been used, if any. -/
theorem Numbered.set {stage : Stage} (h : s.Numbered)
    (hn : s.server.store.lastNumber ≤ s'.server.store.lastNumber)
    (ht : s'.tasks = s.tasks.set i ⟨u, stage⟩)
    (hs : ∀ job, stage.job? = some job → job.ticket.number ≤ s'.server.store.lastNumber) :
    s'.Numbered := by
  intro t' ht' job hj
  rw [ht] at ht'
  rcases List.mem_or_eq_of_mem_set ht' with hold | heq
  · exact Nat.le_trans (h t' hold job hj) hn
  · cases heq
    exact hs job hj

/-- So has a task that enters a stage without a ticket. -/
theorem Numbered.set_none {stage : Stage} (h : s.Numbered)
    (hn : s.server.store.lastNumber ≤ s'.server.store.lastNumber)
    (ht : s'.tasks = s.tasks.set i ⟨u, stage⟩) (hs : stage.job? = none) : s'.Numbered := by
  refine h.set hn ht fun job hj => ?_
  rw [hs] at hj
  cases hj

theorem Numbered.advance (h : s.Numbered) (ht : s.tasks[i]? = some t) (ha : Advance s i t s') :
    s'.Numbered := by
  have hnumber := h t (List.mem_of_getElem? ht)
  cases ha with
  | skip _ => exact h.set_none (Nat.le_refl _) rfl rfl
  | start _ hs =>
      obtain ⟨hticket, rfl⟩ := Server.startLint_eq_ok hs
      refine h.set (Nat.le_succ _) rfl fun job hj => ?_
      cases hj
      rw [hticket]
      exact Nat.le_refl _
  | run files hj hj' =>
      refine h.set (Nat.le_refl _) rfl fun job hj'' => ?_
      rw [hj'] at hj''
      exact hnumber job (hj'' ▸ hj)
  | @settle job result _ =>
      have hn : (s.server.settle job result).2.store.lastNumber = s.server.store.lastNumber := by
        obtain ⟨-, hs⟩ | ⟨ds, -, -, hs⟩ := s.server.settle_cases job result
        · rw [hs]
        · rw [hs, Store.publish_lastNumber]
      exact h.set_none (Nat.le_of_eq hn.symm) rfl rfl
  | rearm _ _ => exact h.set_none (Nat.le_refl _) rfl rfl
  | drop _ _ => exact h.set_none (Nat.le_refl _) rfl rfl
  | fail _ _ hstore =>
      exact h.set_none (Nat.le_of_eq (congrArg Store.lastNumber hstore).symm) rfl rfl
  | warn text _ _ hstore =>
      have hn := Nat.le_of_eq (congrArg Store.lastNumber hstore).symm
      exact h.set_none (by simpa using hn) (by rw [enter_tasks, send_tasks]) rfl
  | lock _ _ => exact h.set_none (Nat.le_refl _) rfl rfl
  | read _ => exact h.set_none (Nat.le_refl _) rfl rfl
  | tell _ => exact h.set_none (by simp) (by rw [enter_tasks, send_tasks]) rfl
  | release _ => exact h.set_none (Nat.le_refl _) rfl rfl

theorem Numbered.perform (h : s.Numbered) (r : Runner) (m : Move) : (m.perform r s).Numbered := by
  have hm := moved r s m
  generalize m.perform r s = s' at hm
  cases hm with
  | rest => exact h
  | request _ _ hstore => exact h.append (congrArg Store.lastNumber hstore) rfl rfl
  | close _ => exact h.append rfl rfl rfl
  | @configure server hstore =>
      intro t ht job hj
      exact hstore ▸ h t ht job hj
  | log text =>
      intro t ht job hj
      rw [send_tasks] at ht
      rw [send_server]
      exact h t ht job hj
  | machine files fault => exact h
  | advance ht ha => exact h.advance ht ha

theorem Numbered.play (h : s.Numbered) (ms : List Move) : (s.play r ms).Numbered :=
  play_induction h fun _ m _ hs => hs.perform r m

/-! ## Since the close -/

/-- What holds since `u` was closed, if nothing more was asked for.  The number `n` had been
used last, and the tasks in `late` were lints of `u` that had no tickets yet. -/
structure Shut (u : Uri) (late : Nat → Prop) (n : Nat) (s : Session) : Prop where
  /-- The late tasks are lints of `u`. -/
  isLate : ∀ i, late i → ∃ t, s.tasks[i]? = some t ∧ t.uri = u
  /-- The other tasks of `u` are old. -/
  isOld : ∀ i t, s.tasks[i]? = some t → t.uri = u → ¬ late i → t.stage.IsOld n
  /-- A slot that `u` has got since is younger than the old tickets. -/
  slot : ∀ slot, s.server.store.slots.get? u = some slot → n < slot.sessionStart
  /-- Numbers go on from `n`. -/
  number : n ≤ s.server.store.lastNumber
  /-- The document has diagnostics if and only if a late lint was accepted. -/
  current : s.server.store.get? u ≠ none ↔
    ∃ i t, late i ∧ s.tasks[i]? = some t ∧ t.stage.isAccepted

/-- Nothing changes for `u` in a session with the same tasks and the same store. -/
theorem Shut.congr (h : Shut u late n s) (ht : s'.tasks = s.tasks)
    (hs : s'.server.store = s.server.store) : Shut u late n s' := by
  constructor
  case isLate =>
    rw [ht]
    exact h.isLate
  case isOld =>
    rw [ht]
    exact h.isOld
  case slot =>
    rw [hs]
    exact h.slot
  case number =>
    rw [hs]
    exact h.number
  case current =>
    rw [ht, hs]
    exact h.current

theorem Shut.send (h : Shut u late n s) (notice : Notice) : Shut u late n (s.send notice) :=
  h.congr (s.send_tasks notice) (by rw [send_server])

/-- A new task of another document changes nothing for `u`. -/
theorem Shut.append {stage : Stage} (h : Shut u late n s) (huv : u ≠ v)
    (ht : s'.tasks = s.tasks ++ [⟨v, stage⟩])
    (hslot : s'.server.store.slots.get? u = s.server.store.slots.get? u)
    (hn : s'.server.store.lastNumber = s.server.store.lastNumber) : Shut u late n s' := by
  have hold : ∀ {j : Nat} {t : Task}, s.tasks[j]? = some t → s'.tasks[j]? = some t := by
    intro j t hj
    rw [ht, List.getElem?_append_left (List.getElem?_eq_some_iff.1 hj).1, hj]
  -- The new task is not one of `u`.
  have hnew : ∀ {j : Nat} {t : Task}, s'.tasks[j]? = some t → t.uri = u →
      s.tasks[j]? = some t := by
    intro j t hj hu
    rw [ht] at hj
    rcases Nat.lt_or_ge j s.tasks.length with hlt | hge
    · rwa [List.getElem?_append_left hlt] at hj
    · rw [List.getElem?_append_right hge] at hj
      cases List.mem_singleton.1 (List.mem_of_getElem? hj)
      exact absurd hu.symm huv
  constructor
  case isLate => exact fun i hi => (h.isLate i hi).imp fun t ht => ⟨hold ht.1, ht.2⟩
  case isOld => exact fun i t hi hu hl => h.isOld i t (hnew hi hu) hu hl
  case slot =>
    rw [hslot]
    exact h.slot
  case number =>
    rw [hn]
    exact h.number
  case current =>
    rw [Store.get?, hslot, ← Store.get?, h.current]
    refine exists_congr fun i => exists_congr fun t => and_congr_right fun hl => ?_
    refine and_congr_left fun _ => ⟨hold, fun hi => ?_⟩
    obtain ⟨t', ht', hu⟩ := h.isLate i hl
    have heq : t' = t := Option.some.inj ((hold ht').symm.trans hi)
    exact hnew hi (heq ▸ hu)

/-- A task enters a stage.  If it is old it stays old, and if it is late it may be accepted. -/
theorem Shut.set {stage : Stage} (h : Shut u late n s) (hi : s.tasks[i]? = some t)
    (ht : s'.tasks = s.tasks.set i ⟨t.uri, stage⟩)
    (hslot : ∀ slot, s'.server.store.slots.get? u = some slot → n < slot.sessionStart)
    (hn : s.server.store.lastNumber ≤ s'.server.store.lastNumber)
    (hold : t.stage.IsOld n → stage.IsOld n)
    (hcur : s'.server.store.get? u ≠ none ↔
      s.server.store.get? u ≠ none ∨ (late i ∧ stage.isAccepted))
    (hacc : late i → t.stage.isAccepted → stage.isAccepted) : Shut u late n s' := by
  have hself : s'.tasks[i]? = some ⟨t.uri, stage⟩ := by
    rw [ht, List.getElem?_set_self (List.getElem?_eq_some_iff.1 hi).1]
  have hne : ∀ j, i ≠ j → s'.tasks[j]? = s.tasks[j]? := by
    intro j hij
    rw [ht, List.getElem?_set_ne hij]
  constructor
  case isLate =>
    intro j hj
    by_cases hij : i = j
    · subst hij
      obtain ⟨t', ht', hu⟩ := h.isLate i hj
      cases Option.some.inj (hi.symm.trans ht')
      exact ⟨_, hself, hu⟩
    · rw [hne j hij]
      exact h.isLate j hj
  case isOld =>
    intro j t' hj hu hl
    by_cases hij : i = j
    · subst hij
      cases Option.some.inj (hself.symm.trans hj)
      exact hold (h.isOld i t hi hu hl)
    · rw [hne j hij] at hj
      exact h.isOld j t' hj hu hl
  case slot => exact hslot
  case number => exact Nat.le_trans h.number hn
  case current =>
    rw [hcur, h.current]
    constructor
    · rintro (⟨j, t', hl, hj, ha⟩ | ⟨hl, ha⟩)
      · by_cases hij : i = j
        · subst hij
          cases Option.some.inj (hi.symm.trans hj)
          exact ⟨i, _, hl, hself, hacc hl ha⟩
        · exact ⟨j, t', hl, (hne j hij).trans hj, ha⟩
      · exact ⟨i, _, hl, hself, ha⟩
    · rintro ⟨j, t', hl, hj, ha⟩
      by_cases hij : i = j
      · subst hij
        cases Option.some.inj (hself.symm.trans hj)
        exact .inr ⟨hl, ha⟩
      · exact .inl ⟨j, t', hl, (hne j hij).symm.trans hj, ha⟩

/-- A task enters a stage, and the store stays as it is. -/
theorem Shut.set_of_store {stage : Stage} (h : Shut u late n s) (hi : s.tasks[i]? = some t)
    (ht : s'.tasks = s.tasks.set i ⟨t.uri, stage⟩)
    (hs : s'.server.store = s.server.store)
    (hold : t.stage.IsOld n → stage.IsOld n) (hacc : stage.isAccepted = t.stage.isAccepted) :
    Shut u late n s' := by
  refine h.set hi ht (by rw [hs]; exact h.slot) (by rw [hs]) hold ?_
    (by rw [hacc]; exact fun _ => id)
  rw [hs, hacc]
  refine (or_iff_left_of_imp fun ⟨hl, ha⟩ => ?_).symm
  exact h.current.2 ⟨i, t, hl, hi, ha⟩

/-- The store decides about a lint.  An old one of `u` is refused. -/
theorem Shut.settle {job : Job} (h : Shut u late n s) (hi : s.tasks[i]? = some t)
    (hj : t.stage.job? = some job) (hu : job.ticket.uri = t.uri)
    (result : Except LintError (List Record)) :
    Shut u late n ({ s with server := (s.server.settle job result).2 }.enter i t
      (.decided (s.server.settle job result).1)) := by
  obtain ⟨hno, hs⟩ | ⟨ds, ho, hp, hs⟩ := s.server.settle_cases job result
  · have hacc : (Stage.decided (s.server.settle job result).1).isAccepted = false :=
      isPublished_eq_false hno
    exact h.set_of_store hi rfl (congrArg Server.store hs) (fun _ => trivial)
      (hacc.trans (isAccepted_of_job? hj).symm)
  · have hstore : (s.server.settle job result).2.store
        = (s.server.store.publish job.ticket ds).2 := congrArg Server.store hs
    obtain ⟨hne, -⟩ | ⟨slot, hslot, hle, -, -⟩ := s.server.store.publish_cases job.ticket ds
    · exact absurd hp hne
    have hslots : ∀ slot', (s.server.settle job result).2.store.slots.get? u = some slot' →
        n < slot'.sessionStart := by
      intro slot' hs'
      rw [hstore] at hs'
      obtain ⟨slot₀, hslot₀, heq⟩ := Store.sessionStart_of_slots_publish hs'
      exact heq ▸ h.slot slot₀ hslot₀
    have hnumber : s.server.store.lastNumber ≤ (s.server.settle job result).2.store.lastNumber := by
      rw [hstore, Store.publish_lastNumber]
    have hacc : (Stage.decided (s.server.settle job result).1).isAccepted := by
      rw [ho]
      rfl
    refine h.set hi rfl hslots hnumber (fun _ => trivial) ?_ fun _ _ => hacc
    rw [enter_server, hstore, hacc]
    by_cases huj : u = job.ticket.uri
    · subst huj
      -- Otherwise the ticket would be older than the slot, and refused.
      have hlate : late i := by
        by_contra hl
        have hold := (isOld_of_job? hj).1 (h.isOld i t hi hu.symm hl)
        have hyoung := h.slot slot hslot
        omega
      rw [Store.get?_publish_self hp]
      exact iff_of_true nofun (.inr ⟨hlate, rfl⟩)
    · have hlate : ¬ late i := by
        intro hl
        obtain ⟨t', ht', hu'⟩ := h.isLate i hl
        cases Option.some.inj (hi.symm.trans ht')
        exact huj (hu'.symm.trans hu.symm)
      rw [Store.get?_publish_ne huj]
      exact (or_iff_left fun hl => hlate hl.1).symm

/-- A lint takes its ticket.  If it gets the first slot since the close it is younger than `n`. -/
theorem Shut.start {job : Job} {language : Option String} (h : Shut u late n s)
    (hi : s.tasks[i]? = some t) (hstage : t.stage = .requested language) :
    Shut u late n
      ({ s with server := { s.server with store := (s.server.store.start t.uri).2 } }.enter i t
        (.admitted job)) := by
  have hslots : ∀ slot, (s.server.store.start t.uri).2.slots.get? u = some slot →
      n < slot.sessionStart := by
    intro slot hs
    by_cases huv : u = t.uri
    · subst huv
      rw [Store.slots_start_self] at hs
      cases hold : s.server.store.slots.get? t.uri with
      | none =>
          rw [hold] at hs
          cases hs
          exact Nat.lt_succ_of_le h.number
      | some slot' =>
          rw [hold] at hs
          cases hs
          exact h.slot _ hold
    · rw [Store.slots_start_ne _ huv] at hs
      exact h.slot slot hs
  refine h.set hi rfl hslots (Nat.le_succ _) (by rw [hstage]; exact False.elim) ?_
    (by rw [hstage]; exact fun _ => nofun)
  rw [enter_server, Store.get?_start]
  exact (or_iff_left fun hl => nomatch hl.2).symm

theorem Shut.advance (h : Shut u late n s) (hlive : s.Live) (hi : s.tasks[i]? = some t)
    (ha : Advance s i t s') : Shut u late n s' := by
  have hsound := hlive.sound t (List.mem_of_getElem? hi)
  cases ha with
  | skip hstage =>
      exact h.set_of_store hi rfl rfl (fun _ => trivial) (by rw [hstage]; rfl)
  | start hstage hs =>
      obtain ⟨-, rfl⟩ := Server.startLint_eq_ok hs
      exact h.start hi hstage
  | run files hj hj' =>
      refine h.set_of_store hi rfl rfl ?_ (by rw [isAccepted_of_job? hj, isAccepted_of_job? hj'])
      rw [isOld_of_job? hj, isOld_of_job? hj']
      exact id
  | settle hstage =>
      have hj := congrArg Stage.job? hstage
      exact h.settle hi hj ((isSound_of_job? hj).1 hsound) _
  | rearm hstage _ => exact h.set_of_store hi rfl rfl (fun _ => trivial) (by rw [hstage]; rfl)
  | drop hstage _ => exact h.set_of_store hi rfl rfl (fun _ => trivial) (by rw [hstage]; rfl)
  | fail hstage _ hs => exact h.set_of_store hi rfl hs (fun _ => trivial) (by rw [hstage]; rfl)
  | @warn outcome server text hstage _ hs =>
      have hserver : Shut u late n { s with server } := h.congr rfl hs
      exact (hserver.send (.warning text)).set_of_store (by rwa [send_tasks]) rfl rfl
        (fun _ => trivial) (by rw [hstage]; rfl)
  | lock hstage _ => exact h.set_of_store hi rfl rfl (fun _ => trivial) (by rw [hstage]; rfl)
  | read hstage => exact h.set_of_store hi rfl rfl (fun _ => trivial) (by rw [hstage]; rfl)
  | tell hstage =>
      exact (h.send _).set_of_store (by rwa [send_tasks]) rfl rfl (fun _ => trivial)
        (by rw [hstage]; rfl)
  | release hstage => exact h.set_of_store hi rfl rfl (fun _ => trivial) (by rw [hstage]; rfl)

/-- A move that is not about `u` changes nothing for `u`, but a late lint may be accepted. -/
theorem Shut.perform (h : Shut u late n s) (hlive : s.Live) (r : Runner)
    (hm : m.uri? ≠ some u) : Shut u late n (m.perform r s) := by
  have hmoved := moved r s m
  generalize m.perform r s = s' at hmoved
  cases hmoved with
  | rest => exact h
  | @request server v language hv hs =>
      have huv : u ≠ v := fun heq => hm (heq ▸ hv)
      exact h.append huv rfl (by rw [spawn_server, hs]) (by rw [spawn_server, hs])
  | @close v hv =>
      have huv : u ≠ v := by
        rintro rfl
        exact hm (hv ▸ rfl)
      exact h.append huv rfl (Store.slots_clear_ne _ huv) rfl
  | configure hs => exact h.congr rfl hs
  | log text => exact h.send _
  | machine files fault => exact h.congr rfl rfl
  | advance hi ha => exact h.advance hlive hi ha

/-- The task is a lint of `u` that has no ticket yet. -/
def LateAt (s : Session) (u : Uri) (i : Nat) : Prop :=
  ∃ language, s.tasks[i]? = some ⟨u, .requested language⟩

/-- Right after the close of `u`. -/
theorem shut_beginClose (hnumbered : s.Numbered) (u : Uri) :
    Shut u (s.LateAt u) s.server.store.lastNumber (s.beginClose u) := by
  have htasks : (s.beginClose u).tasks = s.tasks ++ [⟨u, .waiting none⟩] := rfl
  have hslot : (s.beginClose u).server.store.slots.get? u = none :=
    Store.slots_clear_self s.server.store u
  have hlate : ∀ i, s.LateAt u i → ∃ language,
      (s.beginClose u).tasks[i]? = some ⟨u, .requested language⟩ := by
    rintro i ⟨language, hi⟩
    have hlt := (List.getElem?_eq_some_iff.1 hi).1
    exact ⟨language, by rw [htasks, List.getElem?_append_left hlt, hi]⟩
  constructor
  case isLate =>
    intro i hi
    obtain ⟨language, hi⟩ := hlate i hi
    exact ⟨_, hi, rfl⟩
  case isOld =>
    intro i t hi hu hl
    rw [htasks] at hi
    rcases Nat.lt_or_ge i s.tasks.length with hlt | hge
    · rw [List.getElem?_append_left hlt] at hi
      cases hstage : t.stage with
      | requested language =>
          refine absurd ⟨language, ?_⟩ hl
          rw [hi, ← hu, ← hstage]
      | admitted job | running job wake | ended job result =>
          exact hnumbered t (List.mem_of_getElem? hi) job (by rw [hstage]; rfl)
      | _ => trivial
    · rw [List.getElem?_append_right hge] at hi
      cases List.mem_singleton.1 (List.mem_of_getElem? hi)
      trivial
  case slot =>
    intro slot hs
    rw [hslot] at hs
    cases hs
  case number => exact Nat.le_refl _
  case current =>
    refine iff_of_false (fun hc => hc ?_) ?_
    · rw [Store.get?, hslot]
      rfl
    · rintro ⟨i, t, hl, hi, ha⟩
      obtain ⟨language, hi'⟩ := hlate i hl
      cases Option.some.inj (hi.symm.trans hi')
      cases ha

/-- A run in which nothing is asked for about a document since it was closed. -/
theorem Shut.play {ms : List Move} (h : Shut u late n s) (hlive : s.Live) (r : Runner)
    (hms : ∀ m ∈ ms, m.uri? ≠ some u) : Shut u late n (s.play r ms) := by
  have hboth : (s.play r ms).Live ∧ Shut u late n (s.play r ms) :=
    play_induction (P := fun s => s.Live ∧ Shut u late n s) ⟨hlive, h⟩
      fun _ m hm hs => ⟨hs.1.perform r m, hs.2.perform hs.1 r (hms m hm)⟩
  exact hboth.2

/-! ## At the end -/

theorem stage_of_allOver (h : s.allOver) (ht : t ∈ s.tasks) : ∃ o, t.stage = .finished o := by
  have hover := List.all_eq_true.1 h t ht
  unfold Task.isOver at hover
  split at hover
  case h_1 o hstage => exact ⟨o, hstage⟩
  case h_2 => cases hover

/-- Once a document has been closed and all tasks are over, the client has been told the current
set last. -/
theorem IsInitialized.getLast?_told_of_closes (h₀ : s₀.IsInitialized) (r : Runner)
    {before after : List Move} (hover : (s₀.play r (before ++ .closes u :: after)).allOver) :
    ((s₀.play r (before ++ .closes u :: after)).told u).getLast?
      = some ((s₀.play r (before ++ .closes u :: after)).current u) := by
  -- The task of the close itself has changed the diagnostics.
  have hclosed : (s₀.play r (before ++ [.closes u])).board.Changed u := by
    rw [play_append, play_singleton]
    refine ⟨.due, mem_turns.2 ⟨⟨u, .waiting none⟩, ?_, rfl, rfl⟩, rfl⟩
    exact List.mem_append_right _ (.head _)
  have hchanged : (s₀.play r (before ++ .closes u :: after)).board.Changed u := by
    have hplay : ∀ s : Session, s.Live ∧ s.board.Changed u → (s.play r after).board.Changed u :=
      fun s hs => (play_induction (P := fun s => s.Live ∧ s.board.Changed u) hs fun _ m _ hs =>
        ⟨hs.1.perform r m, (hs.1.step_board r m).changed hs.2⟩).2
    rw [List.append_cons, play_append]
    exact hplay _ ⟨h₀.live.play _, hclosed⟩
  refine (h₀.agrees_play r _ u).getLast?_told (fun turn hm => ?_) hchanged
  obtain ⟨t, ht, -, rfl⟩ := mem_turns.1 hm
  obtain ⟨o, hstage⟩ := stage_of_allOver hover ht
  rw [hstage, Stage.turn]
  split <;> rfl

/-- A document is closed, nothing more is asked for about it, and all tasks come to their ends.
Then it is without diagnostics, and the client has been told so last, if and only if none of the
lints that had no ticket at the close has been accepted. -/
theorem closed_document_silent_iff (h₀ : s₀.IsInitialized) (r : Runner) (u : Uri)
    (before after : List Move) (hafter : ∀ m ∈ after, m.uri? ≠ some u)
    (hover : (s₀.play r (before ++ .closes u :: after)).allOver) :
    ((s₀.play r (before ++ .closes u :: after)).server.store.get? u = none ∧
      ((s₀.play r (before ++ .closes u :: after)).told u).getLast? = some []) ↔
    ∀ i, (s₀.play r before).LateAt u i → ∀ count : Nat,
      (s₀.play r (before ++ .closes u :: after)).tasks[i]?
        ≠ some ⟨u, .finished (some (.published count))⟩ := by
  have htold := h₀.getLast?_told_of_closes (u := u) r hover
  have hshut := (shut_beginClose (h₀.numbered.play (r := r) before) u).play
    ((h₀.live.play (r := r) before).perform r (.closes u)) r hafter
  have hplay : s₀.play r (before ++ .closes u :: after)
      = ((s₀.play r before).beginClose u).play r after := by
    rw [play_append, play_cons]
    rfl
  rw [← hplay] at hshut
  generalize s₀.play r (before ++ .closes u :: after) = s at hover htold hshut
  constructor
  · rintro ⟨hnone, -⟩ i hl count hfinished
    exact hshut.current.2 ⟨i, _, hl, hfinished, rfl⟩ hnone
  · intro hno
    have hnone : s.server.store.get? u = none := by
      by_contra hsome
      obtain ⟨i, t, hl, hi, ha⟩ := hshut.current.1 hsome
      obtain ⟨t', ht', hu⟩ := hshut.isLate i hl
      cases Option.some.inj (hi.symm.trans ht')
      obtain ⟨o, hstage⟩ := stage_of_allOver hover (List.mem_of_getElem? hi)
      rw [hstage] at ha
      obtain ⟨count, rfl⟩ := eq_published_of_isAccepted ha
      refine hno i hl count ?_
      rw [hi, ← hu, ← hstage]
    refine ⟨hnone, ?_⟩
    rw [htold, current, hnone]
    rfl

/-- A document is opened and linted.  It is saved, and the lint takes its ticket. -/
def lintedTwice : List Move :=
  .opens Store.sampleDocument "perl" :: (List.replicate 8 (.steps 0) ++
    [.saves Store.sampleDocument, .steps 1])

/-- The close is handled to its end, and then the second lint is. -/
def closeThenLint : List Move := List.replicate 4 (.steps 2) ++ List.replicate 7 (.steps 1)

/-- The second lint is refused, and the document stays without diagnostics. -/
theorem closed_document_silent_iff_ticketed :
    sampleSession.IsInitialized ∧
    (sampleSession.play sampleRunner
      (lintedTwice ++ .closes Store.sampleDocument :: closeThenLint)).allOver ∧
    (sampleSession.play sampleRunner
      (lintedTwice ++ .closes Store.sampleDocument :: closeThenLint)).server.store.get?
        Store.sampleDocument = none ∧
    ((sampleSession.play sampleRunner
      (lintedTwice ++ .closes Store.sampleDocument :: closeThenLint)).told
        Store.sampleDocument).getLast? = some [] := by
  have hover : (sampleSession.play sampleRunner
      (lintedTwice ++ .closes Store.sampleDocument :: closeThenLint)).allOver := by
    decide +kernel
  have hticketed : ∀ t ∈ (sampleSession.play sampleRunner lintedTwice).tasks,
      (t.stage.job?.isSome || t.stage.outcome?.isSome) = true := by
    decide +kernel
  refine ⟨sampleSession_isInitialized, hover, (closed_document_silent_iff
    sampleSession_isInitialized sampleRunner Store.sampleDocument lintedTwice closeThenLint
    (by decide +kernel) hover).2 ?_⟩
  rintro i ⟨language, hi⟩
  cases hticketed _ (List.mem_of_getElem? hi)

/-- A document is opened. -/
def onlyOpened : List Move := [.opens Store.sampleDocument "perl"]

/-- Its close is handled to its end before the lint has taken its ticket.  Then the lint is. -/
def closeBeforeTicket : List Move := List.replicate 4 (.steps 1) ++ List.replicate 8 (.steps 0)

/-- A document need not stay without diagnostics after its close. -/
theorem not_closed_document_silent :
    ¬ ∀ (s₀ : Session) (r : Runner) (u : Uri) (before after : List Move), s₀.IsInitialized →
      (∀ m ∈ after, m.uri? ≠ some u) →
      (s₀.play r (before ++ .closes u :: after)).allOver →
      (s₀.play r (before ++ .closes u :: after)).server.store.get? u = none ∧
        ((s₀.play r (before ++ .closes u :: after)).told u).getLast? = some [] := by
  intro h
  have hend : (sampleSession.play sampleRunner
        (onlyOpened ++ .closes Store.sampleDocument :: closeBeforeTicket)).allOver ∧
      (sampleSession.play sampleRunner
        (onlyOpened ++ .closes Store.sampleDocument :: closeBeforeTicket)).server.store.get?
          Store.sampleDocument ≠ none := by
    decide +kernel
  exact hend.2 (h sampleSession sampleRunner Store.sampleDocument onlyOpened closeBeforeTicket
    sampleSession_isInitialized (by decide +kernel) hend.1).1

end Session

end PerlLint
