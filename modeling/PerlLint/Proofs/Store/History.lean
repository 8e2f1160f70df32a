import Mathlib.Data.Set.Card
import PerlLint.Store

/-!
# The history of a store

A store keeps three things per document: when its slot was opened, the number of the last
ticket accepted, and the diagnostics that came with it.  Slots go with every closing and are
made anew.  Here is what that little says about everything that was done to the store.

A *history* is the list of what was done, the last thing first, with the answers that were
given.  `Ran h s` says that the history `h` leads from the empty store to `s`.  In it only
tickets that were issued are presented, but at any time and any number of times.  The
*session* of a document is what happened since it was closed last.

`Reflects` is the invariant: it ties the slot of a document, or its absence, to the session.
From it follow the answers.  `Ran.publish_answer` gives the answer to a ticket,
`Ran.get?_eq_some_iff` the diagnostics of a document, and `encard_current` how many documents
have some.

Numbers are not bounded here.  `Ran.lastNumber_eq` says that they count the starts, so a fixed
width is enough for as many starts as it has numbers.
-/

namespace PerlLint.Store

/-! ## Histories -/

/-- Something that was done to a store. -/
inductive Event where
  /-- A ticket was issued. -/
  | started (t : Ticket)
  /-- A ticket was presented with diagnostics, and got an answer. -/
  | presented (t : Ticket) (ds : List Diagnostic) (answer : PublishOutcome)
  /-- A document was closed. -/
  | cleared (u : Uri)
  /-- All documents were closed. -/
  | disposed
deriving DecidableEq

namespace Event

/-- Whether a ticket was issued. -/
def isStart : Event → Bool
  | started _ => true
  | _ => false

/-- Whether a document was closed. -/
def closes (u : Uri) : Event → Bool
  | cleared v => v == u
  | disposed => true
  | _ => false

/-- Whether something changed for a document. -/
def Concerns (u : Uri) : Event → Prop
  | started t => t.uri = u
  | presented t _ answer => t.uri = u ∧ answer = .published
  | cleared v => v = u
  | disposed => True

theorem closes_of_not_concerns {u : Uri} {e : Event} (he : ¬ e.Concerns u) :
    e.closes u = false := by
  cases e with
  | started t => rfl
  | presented t ds answer => rfl
  | cleared v => simpa [closes, Concerns] using he
  | disposed => exact absurd trivial he

end Event

/-- What was done to a store, the last thing first. -/
abbrev History := List Event

/-- A ticket was issued. -/
def Issued (h : History) (t : Ticket) : Prop := .started t ∈ h

/-- The history `h` leads from the empty store to `s`. -/
inductive Ran : History → Store → Prop where
  | nil : Ran [] .empty
  | start {h : History} {s : Store} (u : Uri) :
    Ran h s →
    Ran (.started (s.start u).1 :: h) (s.start u).2
  | publish {h : History} {s : Store} {t : Ticket} (ds : List Diagnostic) :
    Ran h s →
    Issued h t →
    Ran (.presented t ds (s.publish t ds).1 :: h) (s.publish t ds).2
  | clear {h : History} {s : Store} (u : Uri) :
    Ran h s →
    Ran (.cleared u :: h) (s.clear u).2
  | dispose {h : History} {s : Store} :
    Ran h s →
    Ran (.disposed :: h) s.dispose

/-! ## Sessions -/

/-- What happened since a document was closed last. -/
def session (u : Uri) (h : History) : History := h.takeWhile fun e => !e.closes u

/-- The document of a ticket was closed after the ticket had been issued. -/
def ClosedSince (h : History) (t : Ticket) : Prop :=
  ∃ later earlier, h = later ++ .started t :: earlier ∧ ∃ e ∈ later, e.closes t.uri

/-- A ticket was accepted with `ds` since its document was closed last. -/
def Accepted (h : History) (t : Ticket) (ds : List Diagnostic) : Prop :=
  .presented t ds .published ∈ session t.uri h

/-- A ticket of the same document with at least the same number was accepted since the
document was closed last. -/
def Overtaken (h : History) (t : Ticket) : Prop :=
  ∃ n ds, Accepted h ⟨t.uri, n⟩ ds ∧ t.number ≤ n

variable {h : History} {s : Store} {t : Ticket} {u : Uri} {e : Event} {n : Nat}

theorem session_cons_of_closes (he : e.closes u) : session u (e :: h) = [] := by
  simp [session, he]

theorem session_cons (he : e.closes u = false) : session u (e :: h) = e :: session u h := by
  simp [session, he]

/-- A session begins after the last closing. -/
theorem session_append_of_closes {later : History} (he : e ∈ later) (hc : e.closes u) :
    session u (later ++ h) = session u later := by
  induction later with
  | nil => cases he
  | cons e' later ih =>
      by_cases hc' : e'.closes u
      · rw [List.cons_append, session_cons_of_closes hc', session_cons_of_closes hc']
      · have hne : e ≠ e' := fun heq => hc' (heq ▸ hc)
        have hm : e ∈ later := (List.mem_cons.1 he).resolve_left hne
        rw [Bool.not_eq_true] at hc'
        rw [List.cons_append, session_cons hc', session_cons hc', ih hm]

/-- What comes before anything else in a session is in the session. -/
theorem session_append {later : History} (hl : ∀ e ∈ later, e.closes u = false) :
    session u (later ++ h) = later ++ session u h := by
  induction later with
  | nil => rfl
  | cons e later ih =>
      rw [List.cons_append, session_cons (hl e (.head _)),
        ih fun e' he' => hl e' (.tail _ he'), List.cons_append]

theorem mem_of_mem_session (he : e ∈ session u h) : e ∈ h :=
  (List.takeWhile_prefix _).mem he

/-! ## Numbers -/

/-- Every ticket has one of the numbers that have been used. -/
theorem Ran.number_bounds (r : Ran h s) (ht : Issued h t) :
    1 ≤ t.number ∧ t.number ≤ s.lastNumber := by
  induction r with
  | nil => cases ht
  | @start h s u r ih =>
      rcases List.mem_cons.1 ht with heq | hm
      · cases heq
        simp
      · have := ih hm
        simp only [start_lastNumber]
        omega
  | publish ds r _ ih =>
      rw [publish_lastNumber]
      exact ih ((List.mem_cons.1 ht).resolve_left nofun)
  | clear u r ih => exact ih ((List.mem_cons.1 ht).resolve_left nofun)
  | dispose r ih => exact ih ((List.mem_cons.1 ht).resolve_left nofun)

/-- As many numbers have been used as tickets have been issued. -/
theorem Ran.lastNumber_eq (r : Ran h s) : s.lastNumber = h.countP Event.isStart := by
  induction r with
  | nil => rfl
  | start u r ih => rw [start_lastNumber, ih, List.countP_cons_of_pos rfl]
  | publish ds r _ ih =>
      rw [publish_lastNumber, ih, List.countP_cons_of_neg (by simp [Event.isStart])]
  | clear u r ih => exact ih.trans (List.countP_cons_of_neg (by simp [Event.isStart])).symm
  | dispose r ih => exact ih.trans (List.countP_cons_of_neg (by simp [Event.isStart])).symm

/-- No ticket is issued twice. -/
theorem Ran.count_started_le (r : Ran h s) (t : Ticket) : h.count (.started t) ≤ 1 := by
  induction r with
  | nil => simp
  | @start h s u r ih =>
      by_cases heq : Event.started (s.start u).1 = .started t
      · have hnew : .started t ∉ h := by
          intro hm
          have hb := (r.number_bounds hm).2
          injection heq with heq
          rw [← heq] at hb
          exact Nat.not_succ_le_self _ hb
        rw [heq, List.count_cons_self, List.count_eq_zero.2 hnew]
      · rw [List.count_cons_of_ne heq]
        exact ih
  | publish ds r _ ih => rwa [List.count_cons_of_ne (by simp)]
  | clear u r ih => rwa [List.count_cons_of_ne (by simp)]
  | dispose r ih => rwa [List.count_cons_of_ne (by simp)]

/-- A ticket belongs to the session of its document until the document is closed. -/
theorem Ran.closedSince_iff (r : Ran h s) (ht : Issued h t) :
    ClosedSince h t ↔ .started t ∉ session t.uri h := by
  constructor
  · rintro ⟨later, earlier, rfl, e, he, hc⟩ hm
    rw [session_append_of_closes he hc] at hm
    have hcount := r.count_started_le t
    rw [List.count_append, List.count_cons_self] at hcount
    have hpos := List.count_pos_iff.2 (mem_of_mem_session hm)
    omega
  · intro hm
    obtain ⟨later, earlier, rfl⟩ := List.append_of_mem ht
    refine ⟨later, earlier, rfl, ?_⟩
    by_contra hno
    have hl : ∀ e ∈ later, e.closes t.uri = false := by
      intro e he
      rw [← Bool.not_eq_true]
      exact fun hc => hno ⟨e, he, hc⟩
    apply hm
    rw [session_append hl, session_cons rfl]
    exact List.mem_append_right _ (.head _)

/-! ## What a slot says about the session -/

/-- The first ticket in the session of a document has the number `n`.  Those with a smaller
number are from before the document was closed. -/
structure OpenedAt (h : History) (u : Uri) (n : Nat) : Prop where
  /-- It was issued. -/
  issued : Issued h ⟨u, n⟩
  /-- The session begins with it. -/
  mem_session : ∀ m, Issued h ⟨u, m⟩ → (.started ⟨u, m⟩ ∈ session u h ↔ n ≤ m)

/-- How the slot of a document, or its absence, reflects the history. -/
inductive Reflects (h : History) (u : Uri) : Option Slot → Prop where
  | absent :
    (∀ n, .started ⟨u, n⟩ ∉ session u h) →
    (∀ n ds, ¬ Accepted h ⟨u, n⟩ ds) →
    Reflects h u none
  | silent {first : Nat} :
    OpenedAt h u first →
    (∀ n ds, ¬ Accepted h ⟨u, n⟩ ds) →
    Reflects h u (some ⟨first, 0, none⟩)
  | current {first newest : Nat} {ds : List Diagnostic} :
    OpenedAt h u first →
    first ≤ newest →
    Accepted h ⟨u, newest⟩ ds →
    (∀ n ds', Accepted h ⟨u, n⟩ ds' → n ≤ newest ∧ (n = newest → ds' = ds)) →
    Reflects h u (some ⟨first, newest, some ds⟩)

theorem accepted_cons {e : Event} (hc : e.closes t.uri = false) {ds : List Diagnostic} :
    Accepted (e :: h) t ds ↔ e = .presented t ds .published ∨ Accepted h t ds := by
  rw [Accepted, session_cons hc, List.mem_cons, eq_comm, Accepted]

/-- What was issued before is still issued, and stays on its side of the beginning. -/
theorem OpenedAt.cons (ho : OpenedAt h u n) (hc : e.closes u = false)
    (hn : ∀ m, e = .started ⟨u, m⟩ → n ≤ m) : OpenedAt (e :: h) u n := by
  refine ⟨.tail _ ho.issued, fun m hm => ?_⟩
  rw [session_cons hc, List.mem_cons]
  by_cases heq : e = .started ⟨u, m⟩
  · exact ⟨fun _ => hn m heq, fun _ => .inl heq.symm⟩
  · have hold : Issued h ⟨u, m⟩ := (List.mem_cons.1 hm).resolve_left (Ne.symm heq)
    rw [← ho.mem_session m hold]
    exact or_iff_right (Ne.symm heq)

/-- Where nothing changes for a document its slot goes on to reflect the history. -/
theorem Reflects.cons {o : Option Slot} (hr : Reflects h u o) (he : ¬ e.Concerns u) :
    Reflects (e :: h) u o := by
  have hc : e.closes u = false := Event.closes_of_not_concerns he
  have hstart : ∀ m, e ≠ .started ⟨u, m⟩ := fun m heq => he (heq ▸ rfl)
  have hacc : ∀ m ds, Accepted (e :: h) ⟨u, m⟩ ds ↔ Accepted h ⟨u, m⟩ ds := fun m ds =>
    (accepted_cons hc).trans (or_iff_right fun heq => he (heq ▸ ⟨rfl, rfl⟩))
  cases hr with
  | absent hs ha =>
      refine .absent (fun m hm => ?_) fun m ds => (hacc m ds).not.2 (ha m ds)
      rw [session_cons hc] at hm
      exact hs m ((List.mem_cons.1 hm).resolve_left (hstart m).symm)
  | silent ho ha =>
      exact .silent (ho.cons hc fun m heq => absurd heq (hstart m)) fun m ds =>
        (hacc m ds).not.2 (ha m ds)
  | current ho hle hacc' hmax =>
      exact .current (ho.cons hc fun m heq => absurd heq (hstart m)) hle ((hacc _ _).2 hacc')
        fun m ds hm => hmax m ds ((hacc m ds).1 hm)

/-- After a closing there is nothing to reflect. -/
theorem Reflects.of_closes (hc : e.closes u) : Reflects (e :: h) u none := by
  have hs : session u (e :: h) = [] := session_cons_of_closes hc
  refine .absent (fun m => ?_) fun m ds => ?_
  · rw [hs]
    exact List.not_mem_nil
  · rw [Accepted, hs]
    exact List.not_mem_nil

/-- A start opens a slot if there is none, and otherwise adds to the session. -/
theorem Ran.reflects_start (r : Ran h s) (hr : Reflects h u (s.slots.get? u)) :
    Reflects (.started (s.start u).1 :: h) u ((s.start u).2.slots.get? u) := by
  rw [slots_start_self, start_ticket]
  have hacc : ∀ m ds, Accepted (.started ⟨u, s.lastNumber + 1⟩ :: h) ⟨u, m⟩ ds
      ↔ Accepted h ⟨u, m⟩ ds := fun m ds => (accepted_cons rfl).trans (or_iff_right nofun)
  -- The new number is beyond all that were issued, so no slot was opened later.
  have hbeyond : ∀ {first m : Nat}, OpenedAt h u first →
      Event.started ⟨u, s.lastNumber + 1⟩ = .started ⟨u, m⟩ → first ≤ m := by
    intro first m ho heq
    have hb := (r.number_bounds ho.issued).2
    injection heq with heq
    injection heq with _ heq
    exact heq ▸ Nat.le_succ_of_le hb
  generalize s.slots.get? u = o at hr
  cases hr with
  | absent hs ha =>
      refine .silent ⟨.head _, fun m hm => ?_⟩ fun m ds => (hacc m ds).not.2 (ha m ds)
      rw [session_cons rfl, List.mem_cons, or_iff_left (hs m)]
      rcases List.mem_cons.1 hm with heq | hold
      · injection heq with heq
        injection heq with _ heq
        simp [heq]
      · have hb := (r.number_bounds hold).2
        refine iff_of_false (fun heq => ?_) (Nat.not_le.2 (Nat.lt_succ_of_le hb))
        injection heq with heq
        injection heq with _ heq
        exact Nat.not_succ_le_self _ (heq ▸ hb)
  | silent ho ha =>
      exact .silent (ho.cons rfl fun m => hbeyond ho) fun m ds => (hacc m ds).not.2 (ha m ds)
  | current ho hle hacc' hmax =>
      exact .current (ho.cons rfl fun m => hbeyond ho) hle ((hacc _ _).2 hacc')
        fun m ds hm => hmax m ds ((hacc m ds).1 hm)

/-- A ticket that is accepted is the newest of its session. -/
theorem Reflects.publish {slot : Slot} {ds : List Diagnostic}
    (hr : Reflects h t.uri (some slot)) (h₁ : slot.sessionStart ≤ t.number)
    (h₂ : slot.published < t.number) :
    Reflects (.presented t ds .published :: h) t.uri
      (some ⟨slot.sessionStart, t.number, some ds⟩) := by
  have hnew : Accepted (.presented t ds .published :: h) ⟨t.uri, t.number⟩ ds :=
    (accepted_cons rfl).2 (.inl rfl)
  -- What was accepted before has a smaller number.
  have hmax : (∀ n ds', Accepted h ⟨t.uri, n⟩ ds' → n < t.number) → ∀ n ds',
      Accepted (.presented t ds .published :: h) ⟨t.uri, n⟩ ds' →
        n ≤ t.number ∧ (n = t.number → ds' = ds) := by
    intro hold n ds' hm
    rcases (accepted_cons rfl).1 hm with heq | hm
    · injection heq with ht hds
      exact ⟨Nat.le_of_eq (congrArg Ticket.number ht).symm, fun _ => hds.symm⟩
    · have := hold n ds' hm
      exact ⟨by omega, by omega⟩
  cases hr with
  | silent ho ha =>
      exact .current (ho.cons rfl nofun) h₁ hnew (hmax fun n ds' hm => absurd hm (ha n ds'))
  | current ho hle hacc hold =>
      refine .current (ho.cons rfl nofun) h₁ hnew (hmax fun n ds' hm => ?_)
      exact Nat.lt_of_le_of_lt (hold n ds' hm).1 h₂

/-- In every run the slots reflect the history. -/
theorem Ran.reflects (r : Ran h s) (u : Uri) : Reflects h u (s.slots.get? u) := by
  induction r with
  | nil => exact .absent (fun _ => List.not_mem_nil) fun _ _ => List.not_mem_nil
  | @start h s v r ih =>
      by_cases hv : u = v
      · subst hv
        exact r.reflects_start ih
      · rw [slots_start_ne _ hv]
        exact ih.cons fun hc => hv hc.symm
  | @publish h s t ds r _ ih =>
      obtain ⟨hne, hp⟩ | ⟨slot, hslot, h₁, h₂, hp⟩ := s.publish_cases t ds
      · rw [hp]
        exact ih.cons fun hc => hne hc.2
      · by_cases hu : u = t.uri
        · subst hu
          rw [hp, Table.get?_set_self]
          exact (hslot ▸ ih).publish h₁ h₂
        · rw [slots_publish_ne hu]
          exact ih.cons fun hc => hu hc.1.symm
  | @clear h s v r ih =>
      by_cases hv : u = v
      · subst hv
        rw [slots_clear_self]
        exact .of_closes (by simp [Event.closes])
      · rw [slots_clear_ne _ hv]
        exact ih.cons fun hc => hv hc.symm
  | dispose r ih => exact .of_closes rfl

/-! ## Answers -/

/-- The answer to a ticket. -/
theorem Ran.publish_answer (r : Ran h s) (ht : Issued h t) (ds : List Diagnostic) :
    ((s.publish t ds).1 = .closed ∧ ClosedSince h t) ∨
    ((s.publish t ds).1 = .stale ∧ ¬ ClosedSince h t ∧ Overtaken h t) ∨
    ((s.publish t ds).1 = .published ∧ ¬ ClosedSince h t ∧ ¬ Overtaken h t) := by
  rw [r.closedSince_iff ht, not_not]
  have hr := r.reflects t.uri
  have hpos := (r.number_bounds ht).1
  generalize hs : s.slots.get? t.uri = o at hr
  cases hr with
  | absent hnone ha =>
      rw [publish_of_none hs]
      exact .inl ⟨rfl, hnone t.number⟩
  | @silent first ho ha =>
      rw [ho.mem_session t.number ht]
      by_cases h₁ : t.number < first
      · rw [publish_of_lt hs h₁]
        exact .inl ⟨rfl, Nat.not_le.2 h₁⟩
      · rw [publish_of_gt hs (Nat.not_lt.1 h₁) hpos]
        refine .inr (.inr ⟨rfl, Nat.not_lt.1 h₁, ?_⟩)
        rintro ⟨n, ds', hacc, -⟩
        exact ha n ds' hacc
  | @current first newest ds₀ ho _ hacc hmax =>
      rw [ho.mem_session t.number ht]
      by_cases h₁ : t.number < first
      · rw [publish_of_lt hs h₁]
        exact .inl ⟨rfl, Nat.not_le.2 h₁⟩
      · by_cases h₂ : t.number ≤ newest
        · rw [publish_of_le hs (Nat.not_lt.1 h₁) h₂]
          exact .inr (.inl ⟨rfl, Nat.not_lt.1 h₁, newest, ds₀, hacc, h₂⟩)
        · rw [publish_of_gt hs (Nat.not_lt.1 h₁) (Nat.not_le.1 h₂)]
          refine .inr (.inr ⟨rfl, Nat.not_lt.1 h₁, ?_⟩)
          rintro ⟨n, ds', hm, hle⟩
          exact h₂ (Nat.le_trans hle (hmax n ds' hm).1)

/-- The current diagnostics came with the newest ticket that was accepted. -/
theorem Ran.get?_eq_some_iff (r : Ran h s) (u : Uri) (ds : List Diagnostic) :
    s.get? u = some ds ↔
      ∃ n, Accepted h ⟨u, n⟩ ds ∧ ∀ n' ds', Accepted h ⟨u, n'⟩ ds' → n' ≤ n := by
  have hr := r.reflects u
  rw [get?]
  generalize s.slots.get? u = o at hr
  cases hr with
  | absent _ ha =>
      refine iff_of_false (by simp) ?_
      rintro ⟨n, hacc, -⟩
      exact ha n ds hacc
  | silent _ ha =>
      refine iff_of_false (by simp) ?_
      rintro ⟨n, hacc, -⟩
      exact ha n ds hacc
  | @current first newest ds₀ _ _ hacc hmax =>
      rw [Option.bind_some, Option.some_inj]
      constructor
      · rintro rfl
        exact ⟨newest, hacc, fun n' ds' hm => (hmax n' ds' hm).1⟩
      · rintro ⟨n, hm, hle⟩
        obtain ⟨hn, heq⟩ := hmax n ds hm
        exact (heq (Nat.le_antisymm hn (hle newest ds₀ hacc))).symm

/-- A document has no diagnostics if no ticket was accepted. -/
theorem Ran.get?_eq_none_iff (r : Ran h s) (u : Uri) :
    s.get? u = none ↔ ∀ n ds, ¬ Accepted h ⟨u, n⟩ ds := by
  have hr := r.reflects u
  rw [get?]
  generalize s.slots.get? u = o at hr
  cases hr with
  | absent _ ha => exact iff_of_true rfl ha
  | silent _ ha => exact iff_of_true rfl ha
  | current _ _ hacc _ => exact iff_of_false (by simp) fun hno => hno _ _ hacc

/-- The size counts the documents that have diagnostics. -/
theorem encard_current (s : Store) : {u | (s.get? u).isSome}.encard = s.size := by
  let current := (s.slots.entries.filter fun e => e.2.diagnostics.isSome).map Prod.fst
  have hmem : {u | (s.get? u).isSome} = (current.toFinset : Set Uri) := by
    ext u
    simp only [current, get?, Set.mem_ofPred_eq, Finset.mem_coe, List.mem_toFinset, List.mem_map,
      List.mem_filter, Prod.exists, exists_and_right, exists_eq_right, Table.mem_entries_iff]
    cases s.slots.get? u <;> simp
  have hnodup : current.Nodup := s.slots.nodup.sublist (List.Sublist.map _ List.filter_sublist)
  rw [hmem, Set.encard_coe_eq_coe_finsetCard, List.toFinset_card_of_nodup hnodup, List.length_map,
    ← List.countP_eq_length_filter]
  rfl

/-- The history determines what a store answers.  A ticket is refused as closed if its document
was closed after it had been issued, and otherwise as stale if a ticket at least as new was
accepted since the last closing.  A document has the diagnostics that came with the newest
ticket accepted since then.  As many numbers are used as tickets are issued. -/
theorem Ran.answers_determined (r : Ran h s) :
    (∀ t ds, Issued h t →
      ((s.publish t ds).1 = .closed ↔ ClosedSince h t) ∧
      ((s.publish t ds).1 = .stale ↔ ¬ ClosedSince h t ∧ Overtaken h t) ∧
      ((s.publish t ds).1 = .published ↔ ¬ ClosedSince h t ∧ ¬ Overtaken h t)) ∧
    (∀ u ds, s.get? u = some ds ↔
      ∃ n, Accepted h ⟨u, n⟩ ds ∧ ∀ n' ds', Accepted h ⟨u, n'⟩ ds' → n' ≤ n) ∧
    (∀ u, s.get? u = none ↔ ∀ n ds, ¬ Accepted h ⟨u, n⟩ ds) ∧
    {u | (s.get? u).isSome}.encard = s.size ∧
    s.lastNumber = h.countP Event.isStart := by
  refine ⟨fun t ds ht => ?_, r.get?_eq_some_iff, r.get?_eq_none_iff, s.encard_current,
    r.lastNumber_eq⟩
  obtain ⟨ha, hc⟩ | ⟨ha, hc, ho⟩ | ⟨ha, hc, ho⟩ := r.publish_answer ht ds
  · simp [ha, hc]
  · simp [ha, hc, ho]
  · simp [ha, hc, ho]

/-- A document to show things with. -/
def sampleDocument : Uri := ⟨"file", some ⟨"", "", "", none⟩, "/a.pl", none, none⟩

/-- Two lints of a document are under way when it is closed.  It is opened again, and linted. -/
def reopenedHistory : History :=
  [.presented ⟨sampleDocument, 3⟩ [] .published, .started ⟨sampleDocument, 3⟩,
    .cleared sampleDocument, .started ⟨sampleDocument, 2⟩, .started ⟨sampleDocument, 1⟩]

/-- The store when the document is linted again. -/
def reopenedAtLint : Store :=
  let opened := ((Store.empty.start sampleDocument).2.start sampleDocument).2
  ((opened.clear sampleDocument).2.start sampleDocument).2

/-- The store after that lint. -/
def reopenedStore : Store := (reopenedAtLint.publish ⟨sampleDocument, 3⟩ []).2

theorem ran_reopened : Ran reopenedHistory reopenedStore := by
  have hlint : Ran (reopenedHistory.drop 1) reopenedAtLint :=
    .start _ (.clear _ (.start _ (.start _ .nil)))
  have hanswer : (reopenedAtLint.publish ⟨sampleDocument, 3⟩ []).1 = .published := by
    decide +kernel
  have r := hlint.publish (t := ⟨sampleDocument, 3⟩) [] (.head _)
  rwa [hanswer] at r

/-- A ticket from before the closing is refused as closed, and the newest one as stale. -/
theorem answers_determined_reopened :
    Ran reopenedHistory reopenedStore ∧
    ((reopenedStore.publish ⟨sampleDocument, 2⟩ []).1 = .closed ∧
      ClosedSince reopenedHistory ⟨sampleDocument, 2⟩) ∧
    ((reopenedStore.publish ⟨sampleDocument, 3⟩ []).1 = .stale ∧
      Overtaken reopenedHistory ⟨sampleDocument, 3⟩) ∧
    ∃ n, Accepted reopenedHistory ⟨sampleDocument, n⟩ [] := by
  obtain ⟨hp, hg, -⟩ := ran_reopened.answers_determined
  have hold : (reopenedStore.publish ⟨sampleDocument, 2⟩ []).1 = .closed := by decide +kernel
  have hnew : (reopenedStore.publish ⟨sampleDocument, 3⟩ []).1 = .stale := by decide +kernel
  have hget : reopenedStore.get? sampleDocument = some [] := by decide +kernel
  obtain ⟨n, hacc, -⟩ := (hg sampleDocument []).1 hget
  have hissued : ∀ n, n = 2 ∨ n = 3 → Issued reopenedHistory ⟨sampleDocument, n⟩ := by
    rintro n (rfl | rfl) <;> simp [Issued, reopenedHistory]
  exact ⟨ran_reopened, ⟨hold, (hp _ [] (hissued 2 (.inl rfl))).1.1 hold⟩,
    ⟨hnew, ((hp _ [] (hissued 3 (.inr rfl))).2.1.1 hnew).2⟩, n, hacc⟩

end PerlLint.Store
