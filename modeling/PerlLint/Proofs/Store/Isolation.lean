import Mathlib.Logic.Function.Basic
import PerlLint.Proofs.Store.Numbering

/-!
# Documents in one store

All documents of a store draw the numbers of their tickets from one sequence, and a slot says by
such a number where its session begins.  Still they do not get in each other's way.

A *call* does something to a store.  It names a ticket by its document and its place among the
tickets of that document, so a sequence of calls can be gone through again without those that are
about other documents.  `answers_filter` says that the answers about a document are the same then.

The two stores have different numbers.  `Undisturbed` relates them: they are alike as far as the
document goes, and so are its tickets, each one with the one at the same place.
-/

namespace PerlLint.Store

/-- Something that is done to a store. -/
inductive Call where
  /-- A ticket is taken for a document. -/
  | start (u : Uri)
  /-- The ticket of a document that was taken as number `k`, counted from 0, is presented. -/
  | publish (u : Uri) (k : Nat) (ds : List Diagnostic)
  /-- A document is closed. -/
  | clear (u : Uri)
  /-- All documents are closed. -/
  | dispose
  /-- The diagnostics of a document are looked up. -/
  | look (u : Uri)

/-- What a store answers to a call.  The number of a ticket is no part of the answer. -/
inductive Answer where
  /-- A ticket. -/
  | ticket
  /-- The document has no such ticket. -/
  | noTicket
  /-- What became of the diagnostics. -/
  | decided (outcome : PublishOutcome)
  /-- Whether there was anything to forget. -/
  | cleared (had : Bool)
  /-- Nothing. -/
  | done
  /-- The current diagnostics, if there are any. -/
  | current (ds : Option (List Diagnostic))
deriving DecidableEq

/-- Whether a call is about a document. -/
def Call.concerns (u : Uri) : Call → Bool
  | start v | publish v _ _ | clear v | look v => v == u
  | dispose => true

/-- A store, with the numbers of the tickets of each document in the order in which they were
taken. -/
structure Desk where
  /-- The store. -/
  store : Store
  /-- The numbers. -/
  numbers : Uri → List Nat

namespace Desk

/-- A desk at first. -/
def new : Desk := ⟨.empty, fun _ => []⟩

/-- Does what a call asks for. -/
def call (d : Desk) : Call → Answer × Desk
  | .start u =>
      let (t, store) := d.store.start u
      (.ticket, ⟨store, Function.update d.numbers u (d.numbers u ++ [t.number])⟩)
  | .publish u k ds =>
      match (d.numbers u)[k]? with
      | none => (.noTicket, d)
      | some n =>
          let (outcome, store) := d.store.publish ⟨u, n⟩ ds
          (.decided outcome, { d with store })
  | .clear u =>
      let (had, store) := d.store.clear u
      (.cleared had, { d with store })
  | .dispose => (.done, { d with store := d.store.dispose })
  | .look u => (.current (d.store.get? u), d)

/-- The calls with their answers. -/
def answers (d : Desk) : List Call → List (Call × Answer)
  | [] => []
  | c :: cs => (c, (d.call c).1) :: (d.call c).2.answers cs

end Desk

/-! ## Two desks -/

variable {u : Uri} {d d' : Desk} {c : Call}

/-- A desk, and one at which nothing was done about other documents. -/
structure Undisturbed (u : Uri) (d d' : Desk) : Prop where
  /-- As many tickets were taken. -/
  length_eq : (d'.numbers u).length = (d.numbers u).length
  /-- Tickets at the same place correspond. -/
  alike : Alike u (fun n n' => (n, n') ∈ (d.numbers u).zip (d'.numbers u)) d.store d'.store
  /-- Both have a slot, or neither. -/
  contains_eq : d'.store.slots.contains u = d.store.slots.contains u

theorem undisturbed_new (u : Uri) : Undisturbed u .new .new where
  length_eq := rfl
  alike := .of_none rfl rfl ⟨nofun, nofun, nofun⟩
  contains_eq := rfl

theorem contains_start (s : Store) (u : Uri) : (s.start u).2.slots.contains u = true := by
  rw [Table.contains, slots_start_self, Option.isSome_some]

/-- Presenting a ticket opens no slot. -/
theorem contains_publish (s : Store) (t : Ticket) (ds : List Diagnostic) :
    (s.publish t ds).2.slots.contains t.uri = s.slots.contains t.uri := by
  obtain ⟨-, hp⟩ | ⟨slot, hslot, -, -, hp⟩ := s.publish_cases t ds
  · rw [hp]
  · rw [hp, Table.contains, Table.get?_set_self, Table.contains, hslot]
    rfl

/-- The next tickets are at the same place. -/
theorem Undisturbed.start (h : Undisturbed u d d') :
    Undisturbed u (d.call (.start u)).2 (d'.call (.start u)).2 := by
  have hzip : ∀ n n', (n, n') ∈ ((d.numbers u ++ [d.store.lastNumber + 1]).zip
        (d'.numbers u ++ [d'.store.lastNumber + 1])) →
      (n, n') ∈ (d.numbers u).zip (d'.numbers u)
        ∨ n = d.store.lastNumber + 1 ∧ n' = d'.store.lastNumber + 1 := by
    intro n n' hn
    rw [List.zip_append h.length_eq.symm, List.mem_append] at hn
    exact hn.imp_right fun hn => by simpa using hn
  constructor
  case length_eq => simp [Desk.call, h.length_eq]
  case alike =>
    simp only [Desk.call, start_ticket, Function.update_self]
    exact h.alike.start.mono hzip
  case contains_eq => rw [Desk.call, Desk.call, contains_start, contains_start]

/-- A ticket gets the answer that the one at the same place gets. -/
theorem Undisturbed.publish (h : Undisturbed u d d') (k : Nat) (ds : List Diagnostic) :
    (d'.call (.publish u k ds)).1 = (d.call (.publish u k ds)).1 ∧
    Undisturbed u (d.call (.publish u k ds)).2 (d'.call (.publish u k ds)).2 := by
  simp only [Desk.call]
  cases hk : (d.numbers u)[k]? with
  | none =>
      have hk' : (d'.numbers u)[k]? = none := by
        rw [List.getElem?_eq_none_iff] at hk ⊢
        rwa [h.length_eq]
      rw [hk']
      exact ⟨rfl, h⟩
  | some n =>
      have hlt : k < (d'.numbers u).length := by
        rw [h.length_eq]
        exact (List.getElem?_eq_some_iff.1 hk).1
      have hk' := List.getElem?_eq_getElem hlt
      have hmem : (n, (d'.numbers u)[k]) ∈ (d.numbers u).zip (d'.numbers u) :=
        List.mem_of_getElem? (List.getElem?_zip_eq_some.2 ⟨hk, hk'⟩)
      obtain ⟨hanswer, halike⟩ := h.alike.publish hmem ds
      rw [hk']
      refine ⟨congrArg Answer.decided hanswer, h.length_eq, halike, ?_⟩
      rw [contains_publish, contains_publish, h.contains_eq]

/-- A call about the document gets the same answer. -/
theorem Undisturbed.call (h : Undisturbed u d d') (hc : c.concerns u) :
    (d'.call c).1 = (d.call c).1 ∧ Undisturbed u (d.call c).2 (d'.call c).2 := by
  cases c with
  | start v =>
      cases eq_of_beq hc
      exact ⟨rfl, h.start⟩
  | publish v k ds =>
      cases eq_of_beq hc
      exact h.publish k ds
  | clear v =>
      cases eq_of_beq hc
      refine ⟨congrArg Answer.cleared h.contains_eq, h.length_eq, h.alike.clear, ?_⟩
      rw [Desk.call, Desk.call, Table.contains, Table.contains, slots_clear_self,
        slots_clear_self]
  | dispose => exact ⟨rfl, h.length_eq, h.alike.dispose, rfl⟩
  | look v =>
      cases eq_of_beq hc
      exact ⟨congrArg Answer.current h.alike.get?_eq, h⟩

/-- Nothing changes for the document when something is done about another one. -/
theorem Undisturbed.skip (h : Undisturbed u d d') (hc : c.concerns u = false) :
    Undisturbed u (d.call c).2 d' := by
  have hframe : ∀ d₁ : Desk, d₁.numbers u = d.numbers u →
      d₁.store.slots.get? u = d.store.slots.get? u →
      d.store.lastNumber ≤ d₁.store.lastNumber → Undisturbed u d₁ d' := by
    intro d₁ hnumbers hslots hlast
    constructor
    case length_eq => rw [hnumbers, h.length_eq]
    case alike =>
      rw [hnumbers]
      exact h.alike.frame hslots rfl hlast (Nat.le_refl _)
    case contains_eq => rw [h.contains_eq, Table.contains, Table.contains, hslots]
  have hne : ∀ v, (v == u) = false → u ≠ v := by
    rintro v hv rfl
    simp at hv
  cases c with
  | start v =>
      exact hframe _ (Function.update_of_ne (hne v hc) _ _) (slots_start_ne _ (hne v hc))
        (Nat.le_succ _)
  | publish v k ds =>
      simp only [Desk.call]
      cases (d.numbers v)[k]? with
      | none => exact h
      | some n =>
          exact hframe _ rfl (slots_publish_ne (hne v hc))
            (Nat.le_of_eq (publish_lastNumber _ _ _).symm)
  | clear v => exact hframe _ rfl (slots_clear_ne _ (hne v hc)) (Nat.le_refl _)
  | dispose => cases hc
  | look v => exact h

theorem Undisturbed.answers (h : Undisturbed u d d') (cs : List Call) :
    d'.answers (cs.filter (Call.concerns u))
      = (d.answers cs).filter fun a => a.1.concerns u := by
  induction cs generalizing d d' with
  | nil => rfl
  | cons c cs ih =>
      cases hc : c.concerns u with
      | true =>
          obtain ⟨hanswer, hnext⟩ := h.call hc
          rw [List.filter_cons_of_pos hc, Desk.answers, Desk.answers,
            List.filter_cons_of_pos (by exact hc), hanswer, ih hnext]
      | false =>
          rw [List.filter_cons_of_neg (by rw [hc]; exact Bool.false_ne_true), Desk.answers,
            List.filter_cons_of_neg (by rw [hc]; exact Bool.false_ne_true), ih (h.skip hc)]

/-- The answers about a document are the same in a store in which nothing was done about other
documents: what becomes of its tickets, what its diagnostics are, and whether there is anything to
forget about it. -/
theorem answers_filter (u : Uri) (cs : List Call) :
    Desk.new.answers (cs.filter (Call.concerns u))
      = (Desk.new.answers cs).filter fun a => a.1.concerns u :=
  (undisturbed_new u).answers cs

end PerlLint.Store
