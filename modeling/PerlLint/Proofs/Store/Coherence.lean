import PerlLint.Proofs.Store.History

/-!
# The numbers in a store

A slot holds two numbers, the store a third, and each ticket that is about has one.  They are not
independent.  A slot was opened by a ticket of its document, and the last ticket that it accepted is
not older than this one.  It has diagnostics if and only if it has accepted a ticket.  No number is
greater than the last one that was issued, and none was issued twice.

`Coherent` puts this together, and `Ran.coherent` says that it holds after everything that can be
done to a store.  For the slots it follows from what they reflect of the history.  For the tickets
`Ran.map_number_issued` says more: their numbers are those from 1 to the last one, in the order in
which the tickets were issued.
-/

namespace PerlLint.Store

variable {h : History} {s : Store} {t : Ticket} {u : Uri} {slot : Slot}

/-! ## Tickets -/

/-- The ticket that was issued, if one was. -/
def Event.ticket? : Event → Option Ticket
  | .started t => some t
  | _ => none

/-- The tickets that were issued, the last one first. -/
def issued (h : History) : List Ticket := h.filterMap Event.ticket?

theorem mem_issued_iff : t ∈ issued h ↔ Issued h t := by
  rw [issued, List.mem_filterMap]
  constructor
  · rintro ⟨e, he, ht⟩
    cases e with
    | started t' =>
        cases ht
        exact he
    | presented t' ds answer => cases ht
    | cleared v => cases ht
    | disposed => cases ht
  · intro ht
    exact ⟨.started t, ht, rfl⟩

/-- Tickets are numbered from 1 without a gap, in the order in which they are issued. -/
theorem Ran.map_number_issued (r : Ran h s) :
    (issued h).map Ticket.number = (List.range' 1 s.lastNumber).reverse := by
  induction r with
  | nil => rfl
  | @start h s u r ih =>
      have hcons : issued (.started (s.start u).1 :: h) = (s.start u).1 :: issued h := rfl
      rw [hcons, List.map_cons, ih, start_ticket, start_lastNumber, List.range'_1_concat,
        List.reverse_append, Nat.add_comm 1]
      rfl
  | publish ds r _ ih =>
      rw [publish_lastNumber]
      exact ih
  | clear u r ih => exact ih
  | dispose r ih => exact ih

/-- Only tickets that were issued are presented. -/
theorem Ran.issued_of_presented (r : Ran h s) {ds : List Diagnostic} {answer : PublishOutcome}
    (hp : .presented t ds answer ∈ h) : Issued h t := by
  induction r with
  | nil => cases hp
  | start u r ih => exact .tail _ (ih ((List.mem_cons.1 hp).resolve_left nofun))
  | publish ds' r ht ih =>
      rcases List.mem_cons.1 hp with heq | hold
      · cases heq
        exact .tail _ ht
      · exact .tail _ (ih hold)
  | clear u r ih => exact .tail _ (ih ((List.mem_cons.1 hp).resolve_left nofun))
  | dispose r ih => exact .tail _ (ih ((List.mem_cons.1 hp).resolve_left nofun))

/-! ## Slots -/

/-- What holds of the slot of a document when `last` is the last number issued. -/
structure CoherentSlot (h : History) (last : Nat) (u : Uri) (slot : Slot) : Prop where
  /-- It was opened by a ticket of the document. -/
  opened : Issued h ⟨u, slot.sessionStart⟩
  /-- The number of this ticket has been issued. -/
  start_bounds : 1 ≤ slot.sessionStart ∧ slot.sessionStart ≤ last
  /-- The last ticket accepted is not older, if there is one. -/
  published_bounds :
    slot.published = 0 ∨ slot.sessionStart ≤ slot.published ∧ slot.published ≤ last
  /-- There are diagnostics if a ticket was accepted. -/
  diagnostics_iff : slot.diagnostics.isSome ↔ slot.published ≠ 0

/-- What a slot reflects of the history keeps its numbers in order. -/
theorem Ran.coherentSlot (r : Ran h s) (hs : s.slots.get? u = some slot) :
    CoherentSlot h s.lastNumber u slot := by
  have hr := r.reflects u
  rw [hs] at hr
  cases hr with
  | @silent first ho _ =>
      have hfirst := r.number_bounds ho.issued
      exact {
        opened := ho.issued
        start_bounds := hfirst
        published_bounds := .inl rfl
        diagnostics_iff := by simp }
  | @current first newest ds ho hle hacc _ =>
      have hfirst := r.number_bounds ho.issued
      have hnewest := r.number_bounds (r.issued_of_presented (mem_of_mem_session hacc))
      exact {
        opened := ho.issued
        start_bounds := hfirst
        published_bounds := .inr ⟨hle, hnewest.2⟩
        diagnostics_iff := iff_of_true rfl (Nat.ne_of_gt hnewest.1) }

/-! ## Stores -/

/-- What holds of a store and of the tickets that it has issued. -/
structure Coherent (h : History) (s : Store) : Prop where
  /-- Every slot is in order. -/
  slots : ∀ u slot, s.slots.get? u = some slot → CoherentSlot h s.lastNumber u slot
  /-- Tickets are numbered from 1 to the last number. -/
  number_bounds : ∀ t ∈ issued h, 1 ≤ t.number ∧ t.number ≤ s.lastNumber
  /-- No two of them share a number. -/
  numbers_nodup : ((issued h).map Ticket.number).Nodup
  /-- As many numbers are used as tickets are issued, so a word of 64 bits is enough for fewer than
  2^64 of them. -/
  lastNumber_eq : s.lastNumber = (issued h).length

/-- A store is coherent whatever was done to it. -/
theorem Ran.coherent (r : Ran h s) : Coherent h s where
  slots _ _ hs := r.coherentSlot hs
  number_bounds _ ht := r.number_bounds (mem_issued_iff.1 ht)
  numbers_nodup := by
    rw [r.map_number_issued, List.nodup_reverse]
    exact List.nodup_range'
  lastNumber_eq := by
    have hlength := congrArg List.length r.map_number_issued
    rw [List.length_map, List.length_reverse, List.length_range'] at hlength
    exact hlength.symm

/-- A second document. -/
def otherDocument : Uri := { sampleDocument with path := "/b.pm" }

/-- Two documents are linted, the first one twice, and the newer lint ends before the older one.
Then the second document is opened again. -/
def overtakenHistory : History :=
  [.started ⟨otherDocument, 4⟩, .cleared otherDocument, .presented ⟨sampleDocument, 1⟩ [] .stale,
    .presented ⟨sampleDocument, 3⟩ [] .published, .presented ⟨otherDocument, 2⟩ [] .published,
    .started ⟨sampleDocument, 3⟩, .started ⟨otherDocument, 2⟩, .started ⟨sampleDocument, 1⟩]

/-- The store when all three lints are under way. -/
def lintedStore : Store :=
  let first := (Store.empty.start sampleDocument).2
  ((first.start otherDocument).2.start sampleDocument).2

/-- The store after they have ended. -/
def answeredStore : Store :=
  (((lintedStore.publish ⟨otherDocument, 2⟩ []).2.publish ⟨sampleDocument, 3⟩ []).2.publish
    ⟨sampleDocument, 1⟩ []).2

/-- The store in the end. -/
def overtakenStore : Store := ((answeredStore.clear otherDocument).2.start otherDocument).2

theorem ran_overtaken : Ran overtakenHistory overtakenStore := by
  have hlinted : Ran (overtakenHistory.drop 5) lintedStore := .start _ (.start _ (.start _ .nil))
  have hother := hlinted.publish (t := ⟨otherDocument, 2⟩) [] (.tail _ (.head _))
  have hnewer := hother.publish (t := ⟨sampleDocument, 3⟩) [] (.tail _ (.head _))
  have holder := hnewer.publish (t := ⟨sampleDocument, 1⟩) []
    (.tail _ (.tail _ (.tail _ (.tail _ (.head _)))))
  have hanswers : (lintedStore.publish ⟨otherDocument, 2⟩ []).1 = .published ∧
      ((lintedStore.publish ⟨otherDocument, 2⟩ []).2.publish ⟨sampleDocument, 3⟩ []).1
        = .published ∧
      (((lintedStore.publish ⟨otherDocument, 2⟩ []).2.publish ⟨sampleDocument, 3⟩ []).2.publish
        ⟨sampleDocument, 1⟩ []).1 = .stale := by decide +kernel
  rw [hanswers.1, hanswers.2.1, hanswers.2.2] at holder
  exact .start _ (.clear _ holder)

/-- The slot of the first document has passed over a ticket, and that of the second has none. -/
theorem coherent_overtaken :
    Ran overtakenHistory overtakenStore ∧
    (∃ slot, overtakenStore.slots.get? sampleDocument = some slot ∧ slot.published = 3 ∧
      CoherentSlot overtakenHistory 4 sampleDocument slot) ∧
    (∃ slot, overtakenStore.slots.get? otherDocument = some slot ∧ slot.published = 0 ∧
      CoherentSlot overtakenHistory 4 otherDocument slot) ∧
    ((issued overtakenHistory).map Ticket.number).Nodup := by
  have hcoherent := ran_overtaken.coherent
  have hfirst : overtakenStore.slots.get? sampleDocument = some ⟨1, 3, some []⟩ := by
    decide +kernel
  have hsecond : overtakenStore.slots.get? otherDocument = some ⟨4, 0, none⟩ := by decide +kernel
  exact ⟨ran_overtaken, ⟨_, hfirst, rfl, hcoherent.slots _ _ hfirst⟩,
    ⟨_, hsecond, rfl, hcoherent.slots _ _ hsecond⟩, hcoherent.numbers_nodup⟩

end PerlLint.Store
