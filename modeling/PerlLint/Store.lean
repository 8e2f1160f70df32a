import PerlLint.Diagnostic
import PerlLint.Table
import PerlLint.Uri.Basic

/-!
# The store

The store holds the current diagnostics of every open document.  Several runs of
the critic may be under way for one document, and they may end in any order.

A run takes a *ticket* when it starts (`start`).  Tickets are numbered from 1, in
one sequence for all documents.  When the run has ended it presents its ticket
with the diagnostics (`publish`).  They become current unless the run has been
overtaken: the ticket is *stale* if one of the same document with the same or a
greater number has been accepted.

Closing a document removes its slot (`clear`), and the next ticket for it opens
a new one.  A slot remembers the number of the ticket that opened it, so a
ticket from before the close is told apart: it is *closed*, and so is every
ticket of a document without a slot.
-/

namespace PerlLint

/-- What a run holds while it is under way. -/
structure Ticket where
  /-- The document. -/
  uri : Uri
  /-- The number. -/
  number : Nat
deriving Repr, DecidableEq

/-- What becomes of the diagnostics of a run. -/
inductive PublishOutcome where
  /-- They are current now. -/
  | published
  /-- A run at least as new has been accepted. -/
  | stale
  /-- The document was closed after the run had started. -/
  | closed
deriving Repr, DecidableEq

/-- The state of one open document. -/
structure Slot where
  /-- The number of the ticket that opened the slot. -/
  sessionStart : Nat
  /-- The number of the last ticket accepted, or 0. -/
  published : Nat
  /-- The current diagnostics, if a ticket was accepted. -/
  diagnostics : Option (List Diagnostic)
deriving Repr, DecidableEq

/-- The diagnostics of all open documents. -/
structure Store where
  /-- The number of the last ticket issued, or 0. -/
  lastNumber : Nat
  /-- The slots. -/
  slots : Table Uri Slot

namespace Store

/-- The store at first. -/
def empty : Store := ⟨0, .empty⟩

/-- Issues a ticket for a document. -/
def start (s : Store) (u : Uri) : Ticket × Store :=
  let n := s.lastNumber + 1
  let slots := if s.slots.contains u then s.slots else s.slots.set u ⟨n, 0, none⟩
  (⟨u, n⟩, ⟨n, slots⟩)

/-- Makes diagnostics current unless their run has been overtaken. -/
def publish (s : Store) (t : Ticket) (ds : List Diagnostic) : PublishOutcome × Store :=
  match s.slots.get? t.uri with
  | none => (.closed, s)
  | some slot =>
      if t.number < slot.sessionStart then (.closed, s)
      else if t.number ≤ slot.published then (.stale, s)
      else
        (.published, { s with slots := s.slots.set t.uri ⟨slot.sessionStart, t.number, some ds⟩ })

/-- Forgets a document.  Also says whether there was anything to forget. -/
def clear (s : Store) (u : Uri) : Bool × Store :=
  (s.slots.contains u, { s with slots := s.slots.erase u })

/-- Forgets all documents. -/
def dispose (s : Store) : Store := { s with slots := .empty }

/-- The current diagnostics of a document, if there are any. -/
def get? (s : Store) (u : Uri) : Option (List Diagnostic) :=
  (s.slots.get? u).bind Slot.diagnostics

/-- The number of documents with current diagnostics. -/
def size (s : Store) : Nat := s.slots.count fun slot => slot.diagnostics.isSome

/-- Whether no document has current diagnostics. -/
def isEmpty (s : Store) : Bool := s.size == 0

/-! ## The view

What the operations do to the slot of each document. -/

variable {s : Store} {t : Ticket} {ds : List Diagnostic} {slot : Slot}

@[simp] theorem start_ticket (s : Store) (u : Uri) : (s.start u).1 = ⟨u, s.lastNumber + 1⟩ := rfl

@[simp] theorem start_lastNumber (s : Store) (u : Uri) :
    (s.start u).2.lastNumber = s.lastNumber + 1 := rfl

/-- A start leaves the slot of its document, or opens a new one. -/
theorem slots_start_self (s : Store) (u : Uri) :
    (s.start u).2.slots.get? u
      = some ((s.slots.get? u).getD ⟨s.lastNumber + 1, 0, none⟩) := by
  cases hu : s.slots.get? u with
  | none => simp [start, Table.contains, hu]
  | some slot => simp [start, Table.contains, hu]

theorem slots_start_ne (s : Store) {u v : Uri} (h : v ≠ u) :
    (s.start u).2.slots.get? v = s.slots.get? v := by
  simp only [start]
  split
  · rfl
  · exact s.slots.get?_set_ne _ h

/-- A ticket of a document without a slot is refused. -/
theorem publish_of_none (hs : s.slots.get? t.uri = none) : s.publish t ds = (.closed, s) := by
  simp [publish, hs]

/-- A ticket from before the slot was opened is refused. -/
theorem publish_of_lt (hs : s.slots.get? t.uri = some slot) (ht : t.number < slot.sessionStart) :
    s.publish t ds = (.closed, s) := by
  simp [publish, hs, ht]

/-- A ticket that is no newer than the last one accepted is refused. -/
theorem publish_of_le (hs : s.slots.get? t.uri = some slot) (h₁ : slot.sessionStart ≤ t.number)
    (h₂ : t.number ≤ slot.published) : s.publish t ds = (.stale, s) := by
  simp [publish, hs, Nat.not_lt.2 h₁, h₂]

/-- Any other ticket is accepted. -/
theorem publish_of_gt (hs : s.slots.get? t.uri = some slot) (h₁ : slot.sessionStart ≤ t.number)
    (h₂ : slot.published < t.number) :
    s.publish t ds = (.published,
      { s with slots := s.slots.set t.uri ⟨slot.sessionStart, t.number, some ds⟩ }) := by
  simp [publish, hs, Nat.not_lt.2 h₁, Nat.not_le.2 h₂]

/-- Either a ticket is refused and nothing changes, or it is accepted: then its document has a
slot that is not younger and has accepted nothing newer, and its diagnostics become current. -/
theorem publish_cases (s : Store) (t : Ticket) (ds : List Diagnostic) :
    ((s.publish t ds).1 ≠ .published ∧ (s.publish t ds).2 = s) ∨
    ∃ slot, s.slots.get? t.uri = some slot ∧ slot.sessionStart ≤ t.number ∧
      slot.published < t.number ∧
      s.publish t ds = (.published,
        { s with slots := s.slots.set t.uri ⟨slot.sessionStart, t.number, some ds⟩ }) := by
  cases hs : s.slots.get? t.uri with
  | none => exact .inl (by simp [publish_of_none hs])
  | some slot =>
      by_cases h₁ : t.number < slot.sessionStart
      · exact .inl (by simp [publish_of_lt hs h₁])
      · by_cases h₂ : t.number ≤ slot.published
        · exact .inl (by simp [publish_of_le hs (by omega) h₂])
        · exact .inr ⟨slot, rfl, by omega, by omega, publish_of_gt hs (by omega) (by omega)⟩

theorem slots_publish_ne {u : Uri} (h : u ≠ t.uri) :
    (s.publish t ds).2.slots.get? u = s.slots.get? u := by
  obtain ⟨-, hp⟩ | ⟨slot, -, -, -, hp⟩ := s.publish_cases t ds
  · rw [hp]
  · rw [hp]
    exact s.slots.get?_set_ne _ h

/-- A slot goes on from where it was opened. -/
theorem sessionStart_of_slots_publish {u : Uri} {slot' : Slot}
    (h : (s.publish t ds).2.slots.get? u = some slot') :
    ∃ slot, s.slots.get? u = some slot ∧ slot.sessionStart = slot'.sessionStart := by
  obtain ⟨-, hp⟩ | ⟨slot, hslot, -, -, hp⟩ := s.publish_cases t ds
  · rw [hp] at h
    exact ⟨slot', h, rfl⟩
  · by_cases hu : u = t.uri
    · subst hu
      rw [hp, Table.get?_set_self] at h
      cases h
      exact ⟨slot, hslot, rfl⟩
    · rw [slots_publish_ne hu] at h
      exact ⟨slot', h, rfl⟩

@[simp] theorem publish_lastNumber (s : Store) (t : Ticket) (ds : List Diagnostic) :
    (s.publish t ds).2.lastNumber = s.lastNumber := by
  obtain ⟨-, hp⟩ | ⟨slot, -, -, -, hp⟩ := s.publish_cases t ds <;> rw [hp]

@[simp] theorem slots_clear_self (s : Store) (u : Uri) : (s.clear u).2.slots.get? u = none :=
  s.slots.get?_erase_self u

theorem slots_clear_ne (s : Store) {u v : Uri} (h : v ≠ u) :
    (s.clear u).2.slots.get? v = s.slots.get? v :=
  s.slots.get?_erase_ne h

/-- A start changes no diagnostics. -/
@[simp] theorem get?_start (s : Store) (u v : Uri) : (s.start u).2.get? v = s.get? v := by
  by_cases h : v = u
  · subst h
    rw [get?, slots_start_self, get?]
    cases s.slots.get? v <;> rfl
  · rw [get?, slots_start_ne s h, get?]

/-- Diagnostics that are accepted become current. -/
theorem get?_publish_self (h : (s.publish t ds).1 = .published) :
    (s.publish t ds).2.get? t.uri = some ds := by
  obtain ⟨hne, -⟩ | ⟨slot, -, -, -, hp⟩ := s.publish_cases t ds
  · exact absurd h hne
  · simp [hp, get?]

theorem get?_publish_ne {u : Uri} (h : u ≠ t.uri) : (s.publish t ds).2.get? u = s.get? u := by
  rw [get?, slots_publish_ne h, get?]

/-- Diagnostics that are refused change nothing. -/
theorem publish_of_refused {answer : PublishOutcome} {s' : Store}
    (h : s.publish t ds = (answer, s')) (hne : answer ≠ .published) : s' = s := by
  obtain ⟨-, hs⟩ | ⟨slot, -, -, -, hp⟩ := s.publish_cases t ds
  · rwa [h] at hs
  · rw [h] at hp
    exact absurd (congrArg Prod.fst hp) hne

@[simp] theorem get?_clear_self (s : Store) (u : Uri) : (s.clear u).2.get? u = none := by
  simp [get?]

theorem get?_clear_ne (s : Store) {u v : Uri} (h : v ≠ u) :
    (s.clear u).2.get? v = s.get? v := by
  rw [get?, slots_clear_ne s h, get?]

end Store

end PerlLint
