import PerlLint.Store

/-!
# Stores whose tickets have other numbers

What a store answers about a document depends on the order of the numbers of its tickets, and on
nothing else about them.  So two stores may give the same answers although one of them has issued
tickets that the other one has not.

`Alike` relates two such stores as far as one document goes.  Which of its tickets correspond is
said by a relation between their numbers.  Corresponding tickets come in the same order, and they
compare in the same way with the slots.  The first store may also have a slot that the second one
lacks, if there are no diagnostics in it and no corresponding ticket belongs to it: then a ticket
that only the first store has issued has opened it.

What is done to both stores keeps them alike, and the answers are the same.  So does what is done
to one of them, if it is about another document or is the start of a lint that the other store is
to know nothing of.
-/

namespace PerlLint.Store

/-- Corresponding numbers have been used in both stores, and are in the same order. -/
structure Ordered (corr : Nat → Nat → Prop) (last last' : Nat) : Prop where
  /-- Numbers count from 1. -/
  pos : ∀ {n n'}, corr n n' → 0 < n ∧ 0 < n'
  /-- They have been used. -/
  used : ∀ {n n'}, corr n n' → n ≤ last ∧ n' ≤ last'
  /-- They are in the same order. -/
  le_iff : ∀ {m m' n n'}, corr m m' → corr n n' → (m ≤ n ↔ m' ≤ n')

/-- The numbers in the slot of a document have been used. -/
def Bounded (s : Store) (u : Uri) : Prop :=
  ∀ slot, s.slots.get? u = some slot →
    slot.sessionStart ≤ s.lastNumber ∧ slot.published ≤ s.lastNumber

/-- Two slots, or their absence, that corresponding tickets cannot tell apart. -/
inductive SlotsAlike (corr : Nat → Nat → Prop) : Option Slot → Option Slot → Prop where
  | absent : SlotsAlike corr none none
  | present {first first' newest newest' : Nat} {ds : Option (List Diagnostic)} :
    (∀ n n', corr n n' → (n < first ↔ n' < first')) →
    (∀ n n', corr n n' → (n ≤ newest ↔ n' ≤ newest')) →
    SlotsAlike corr (some ⟨first, newest, ds⟩) (some ⟨first', newest', ds⟩)
  | unknown {first : Nat} :
    (∀ n n', corr n n' → n < first) →
    SlotsAlike corr (some ⟨first, 0, none⟩) none

/-- Two stores that corresponding tickets of a document cannot tell apart. -/
structure Alike (u : Uri) (corr : Nat → Nat → Prop) (s s' : Store) : Prop where
  /-- The numbers are in the same order. -/
  ordered : Ordered corr s.lastNumber s'.lastNumber
  /-- The slot of the first store is bounded. -/
  left : s.Bounded u
  /-- The slot of the second store is bounded. -/
  right : s'.Bounded u
  /-- The slots are alike. -/
  slots : SlotsAlike corr (s.slots.get? u) (s'.slots.get? u)

variable {u v : Uri} {corr corr' : Nat → Nat → Prop} {s s' t t' : Store} {n n' : Nat}

/-! ## Numbers -/

theorem Ordered.mono {last last' : Nat} (h : Ordered corr last last') {later later' : Nat}
    (hl : last ≤ later) (hl' : last' ≤ later') : Ordered corr later later' where
  pos := h.pos
  used hc := by
    obtain ⟨hn, hn'⟩ := h.used hc
    exact ⟨Nat.le_trans hn hl, Nat.le_trans hn' hl'⟩
  le_iff := h.le_iff

/-- The next numbers correspond, and come after all others. -/
theorem Ordered.next {last last' : Nat} (h : Ordered corr last last') :
    Ordered (fun n n' => corr n n' ∨ n = last + 1 ∧ n' = last' + 1) (last + 1) (last' + 1) where
  pos := by
    rintro n n' (hc | ⟨rfl, rfl⟩)
    · exact h.pos hc
    · exact ⟨Nat.succ_pos _, Nat.succ_pos _⟩
  used := by
    rintro n n' (hc | ⟨rfl, rfl⟩)
    · obtain ⟨hn, hn'⟩ := h.used hc
      exact ⟨Nat.le_succ_of_le hn, Nat.le_succ_of_le hn'⟩
    · exact ⟨Nat.le_refl _, Nat.le_refl _⟩
  le_iff := by
    rintro m m' n n' (hm | ⟨rfl, rfl⟩) (hn | ⟨rfl, rfl⟩)
    · exact h.le_iff hm hn
    · have := h.used hm
      omega
    · have := h.used hn
      omega
    · simp

theorem Bounded.of_eq (h : s.Bounded u) (hs : t.slots.get? u = s.slots.get? u)
    (hl : s.lastNumber ≤ t.lastNumber) : t.Bounded u := by
  intro slot hslot
  obtain ⟨h₁, h₂⟩ := h slot (hs ▸ hslot)
  exact ⟨Nat.le_trans h₁ hl, Nat.le_trans h₂ hl⟩

theorem Bounded.of_none (hs : s.slots.get? u = none) : s.Bounded u := by
  intro slot hslot
  rw [hs] at hslot
  cases hslot

theorem Bounded.start (h : s.Bounded u) : (s.start u).2.Bounded u := by
  intro slot hslot
  rw [slots_start_self] at hslot
  rw [start_lastNumber]
  cases hold : s.slots.get? u with
  | none =>
      rw [hold] at hslot
      cases hslot
      exact ⟨Nat.le_refl _, Nat.zero_le _⟩
  | some slot' =>
      rw [hold] at hslot
      cases hslot
      obtain ⟨h₁, h₂⟩ := h _ hold
      exact ⟨Nat.le_succ_of_le h₁, Nat.le_succ_of_le h₂⟩

/-! ## What does not concern the document -/

/-- Nothing changes for a document whose slots stay as they are. -/
theorem Alike.frame (h : Alike u corr s s') (hs : t.slots.get? u = s.slots.get? u)
    (hs' : t'.slots.get? u = s'.slots.get? u) (hl : s.lastNumber ≤ t.lastNumber)
    (hl' : s'.lastNumber ≤ t'.lastNumber) : Alike u corr t t' where
  ordered := h.ordered.mono hl hl'
  left := h.left.of_eq hs hl
  right := h.right.of_eq hs' hl'
  slots := by
    rw [hs, hs']
    exact h.slots

/-- Tickets that will not be presented any more need not correspond. -/
theorem Alike.mono (h : Alike u corr s s') (hc : ∀ n n', corr' n n' → corr n n') :
    Alike u corr' s s' where
  ordered := ⟨fun hn => h.ordered.pos (hc _ _ hn), fun hn => h.ordered.used (hc _ _ hn),
    fun hm hn => h.ordered.le_iff (hc _ _ hm) (hc _ _ hn)⟩
  left := h.left
  right := h.right
  slots := by
    have hslots := h.slots
    generalize s.slots.get? u = o at hslots ⊢
    generalize s'.slots.get? u = o' at hslots ⊢
    cases hslots with
    | absent => exact .absent
    | present hfirst hnewest =>
        exact .present (fun n n' hn => hfirst n n' (hc n n' hn)) fun n n' hn =>
          hnewest n n' (hc n n' hn)
    | unknown hfirst => exact .unknown fun n n' hn => hfirst n n' (hc n n' hn)

/-- Stores without tickets and without slots are alike. -/
theorem Alike.of_none (hs : s.slots.get? u = none) (hs' : s'.slots.get? u = none)
    (ho : Ordered corr s.lastNumber s'.lastNumber) : Alike u corr s s' where
  ordered := ho
  left := .of_none hs
  right := .of_none hs'
  slots := by
    rw [hs, hs']
    exact .absent

/-! ## Answers -/

/-- Stores that are alike have the same diagnostics. -/
theorem Alike.get?_eq (h : Alike u corr s s') : s'.get? u = s.get? u := by
  have hslots := h.slots
  rw [get?, get?]
  generalize s.slots.get? u = o at hslots ⊢
  generalize s'.slots.get? u = o' at hslots ⊢
  cases hslots with
  | absent => rfl
  | present _ _ => rfl
  | unknown _ => rfl

/-- Corresponding tickets get the same answer, and the stores stay alike. -/
theorem Alike.publish (h : Alike u corr s s') (hn : corr n n') (ds : List Diagnostic) :
    (s'.publish ⟨u, n'⟩ ds).1 = (s.publish ⟨u, n⟩ ds).1 ∧
    Alike u corr (s.publish ⟨u, n⟩ ds).2 (s'.publish ⟨u, n'⟩ ds).2 := by
  have hslots := h.slots
  generalize hs : s.slots.get? u = o at hslots
  generalize hs' : s'.slots.get? u = o' at hslots
  cases hslots with
  | absent =>
      rw [publish_of_none (t := ⟨u, n⟩) hs, publish_of_none (t := ⟨u, n'⟩) hs']
      exact ⟨rfl, h⟩
  | @unknown first hfirst =>
      rw [publish_of_lt (t := ⟨u, n⟩) hs (hfirst n n' hn), publish_of_none (t := ⟨u, n'⟩) hs']
      exact ⟨rfl, h⟩
  | @present first first' newest newest' ds₀ hfirst hnewest =>
      by_cases h₁ : n < first
      · rw [publish_of_lt (t := ⟨u, n⟩) hs h₁,
          publish_of_lt (t := ⟨u, n'⟩) hs' ((hfirst n n' hn).1 h₁)]
        exact ⟨rfl, h⟩
      have h₁' : ¬ n' < first' := fun hlt => h₁ ((hfirst n n' hn).2 hlt)
      by_cases h₂ : n ≤ newest
      · rw [publish_of_le (t := ⟨u, n⟩) hs (Nat.not_lt.1 h₁) h₂,
          publish_of_le (t := ⟨u, n'⟩) hs' (Nat.not_lt.1 h₁') ((hnewest n n' hn).1 h₂)]
        exact ⟨rfl, h⟩
      have h₂' : ¬ n' ≤ newest' := fun hle => h₂ ((hnewest n n' hn).2 hle)
      rw [publish_of_gt (t := ⟨u, n⟩) hs (Nat.not_lt.1 h₁) (Nat.not_le.1 h₂),
        publish_of_gt (t := ⟨u, n'⟩) hs' (Nat.not_lt.1 h₁') (Nat.not_le.1 h₂')]
      obtain ⟨hused, hused'⟩ := h.ordered.used hn
      refine ⟨rfl, h.ordered, ?_, ?_, ?_⟩
      · intro slot hslot
        rw [Table.get?_set_self] at hslot
        cases hslot
        exact ⟨(h.left _ hs).1, hused⟩
      · intro slot hslot
        rw [Table.get?_set_self] at hslot
        cases hslot
        exact ⟨(h.right _ hs').1, hused'⟩
      · rw [Table.get?_set_self, Table.get?_set_self]
        exact .present hfirst fun m m' hm => h.ordered.le_iff hm hn

/-- The next tickets of both stores correspond. -/
theorem Alike.start (h : Alike u corr s s') :
    Alike u (fun n n' => corr n n' ∨ n = s.lastNumber + 1 ∧ n' = s'.lastNumber + 1)
      (s.start u).2 (s'.start u).2 := by
  refine ⟨h.ordered.next, h.left.start, h.right.start, ?_⟩
  rw [slots_start_self, slots_start_self]
  have hslots := h.slots
  generalize hs : s.slots.get? u = o at hslots
  generalize hs' : s'.slots.get? u = o' at hslots
  cases hslots with
  | absent =>
      refine .present (fun n n' hn => ?_) fun n n' hn => ?_
      · obtain hc | ⟨rfl, rfl⟩ := hn
        · have := h.ordered.used hc
          omega
        · simp
      · have := h.ordered.next.pos hn
        omega
  | @present first first' newest newest' ds hfirst hnewest =>
      have hb := h.left _ hs
      have hb' := h.right _ hs'
      dsimp only at hb hb'
      refine .present (fun n n' hn => ?_) fun n n' hn => ?_
      · obtain hc | ⟨rfl, rfl⟩ := hn
        · exact hfirst n n' hc
        · omega
      · obtain hc | ⟨rfl, rfl⟩ := hn
        · exact hnewest n n' hc
        · omega
  | @unknown first hfirst =>
      -- The second store opens its slot only now.  Older tickets come before both slots, and the
      -- new ones after both.
      have hb := h.left _ hs
      dsimp only at hb
      refine .present (fun n n' hn => ?_) fun n n' hn => ?_
      · obtain hc | ⟨rfl, rfl⟩ := hn
        · have := h.ordered.used hc
          have := hfirst n n' hc
          omega
        · omega
      · have := h.ordered.next.pos hn
        omega

/-- A ticket that only the first store issues makes no difference. -/
theorem Alike.start_left (h : Alike u corr s s') (v : Uri) : Alike u corr (s.start v).2 s' := by
  by_cases hv : u = v
  · subst hv
    refine ⟨h.ordered.mono (Nat.le_succ _) (Nat.le_refl _), h.left.start, h.right, ?_⟩
    rw [slots_start_self]
    have hslots := h.slots
    generalize s.slots.get? u = o at hslots
    generalize s'.slots.get? u = o' at hslots
    cases hslots with
    -- The slot is opened after all tickets that correspond, so they are closed in both stores.
    | absent => exact .unknown fun n n' hn => Nat.lt_succ_of_le (h.ordered.used hn).1
    | present hfirst hnewest => exact .present hfirst hnewest
    | unknown hfirst => exact .unknown hfirst
  · exact h.frame (slots_start_ne s hv) rfl (Nat.le_succ _) (Nat.le_refl _)

theorem Alike.clear (h : Alike u corr s s') : Alike u corr (s.clear u).2 (s'.clear u).2 :=
  .of_none (slots_clear_self s u) (slots_clear_self s' u) h.ordered

theorem Alike.dispose (h : Alike u corr s s') : Alike u corr s.dispose s'.dispose :=
  .of_none rfl rfl h.ordered

end PerlLint.Store
