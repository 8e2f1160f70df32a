import Mathlib.Data.List.Basic
import Mathlib.Logic.Function.Basic
import PerlLint.Diagnostic
import PerlLint.Uri.Basic

/-!
# Telling the client in turns

Several tasks change the diagnostics of a document and tell the client about it.  What they
do to each other there does not depend on the critic, on the configuration or on tickets.  A
*board* has just what it depends on: the current diagnostics, what the client has been told,
which task has the gate, and each task's *turn*.

A task whose turn is due waits for the gate.  It takes the gate, reads the current
diagnostics, tells the client what it has read, and leaves.  `Step` has these as separate
steps, and `IsRun` lets them come in any order.

Two invariants are carried along a run.  `Agrees` says that a document of which the client
does not know the current diagnostics has a task whose turn is due, or one that has just read
them.  `Traced` gives the moments at which the diagnostics were read that the client has been
told.  They follow one another because the gate lets in one task at a time (`Orderly`).
-/

namespace PerlLint

/-- The part of a task's course that is about telling the client. -/
inductive Turn where
  /-- The task has not changed the diagnostics of its document. -/
  | idle
  /-- It has, and waits for the gate. -/
  | due
  /-- It has the gate. -/
  | reading
  /-- It has the gate, and has read the diagnostics. -/
  | holding (ds : List Diagnostic)
  /-- It has the gate, and has told the client. -/
  | leaving
  /-- It has told the client and left. -/
  | done
deriving DecidableEq

namespace Turn

/-- Whether a task has the gate. -/
def hasGate : Turn → Bool
  | reading | holding _ | leaving => true
  | _ => false

/-- Whether a task has still to tell the client. -/
def owes : Turn → Bool
  | due | reading | holding _ => true
  | _ => false

/-- Whether a task has changed the diagnostics of its document. -/
def hasChanged : Turn → Bool
  | idle => false
  | _ => true

end Turn

/-- What the client is told depends on this. -/
structure Board where
  /-- The current diagnostics of each document, if it has any. -/
  current : Uri → Option (List Diagnostic)
  /-- The diagnostics of each document that the client has been told, the last ones last. -/
  told : Uri → List (List Diagnostic)
  /-- The task that has the gate, by its number. -/
  gate : Option Nat
  /-- The documents and turns of the tasks, by their numbers. -/
  turns : List (Uri × Turn)

namespace Board

/-- What a task reads. -/
def snapshot (b : Board) (u : Uri) : List Diagnostic := (b.current u).getD []

/-- One step. -/
inductive Step : Board → Board → Prop where
  | rest {b : Board} : Step b b
  | join {b : Board} (u : Uri) : Step b { b with turns := b.turns ++ [(u, .idle)] }
  | close {b : Board} (u : Uri) :
    Step b { b with current := Function.update b.current u none,
                    turns := b.turns ++ [(u, .due)] }
  | accept {b : Board} {i : Nat} {u : Uri} (ds : List Diagnostic) :
    b.turns[i]? = some (u, .idle) →
    Step b { b with current := Function.update b.current u (some ds),
                    turns := b.turns.set i (u, .due) }
  | lock {b : Board} {i : Nat} {u : Uri} :
    b.turns[i]? = some (u, .due) →
    b.gate = none →
    Step b { b with gate := some i, turns := b.turns.set i (u, .reading) }
  | read {b : Board} {i : Nat} {u : Uri} :
    b.turns[i]? = some (u, .reading) →
    Step b { b with turns := b.turns.set i (u, .holding (b.snapshot u)) }
  | tell {b : Board} {i : Nat} {u : Uri} {ds : List Diagnostic} :
    b.turns[i]? = some (u, .holding ds) →
    Step b { b with told := Function.update b.told u (b.told u ++ [ds]),
                    turns := b.turns.set i (u, .leaving) }
  | release {b : Board} {i : Nat} {u : Uri} :
    b.turns[i]? = some (u, .leaving) →
    Step b { b with gate := none, turns := b.turns.set i (u, .done) }

/-- A sequence of boards, each one a step after the one before. -/
def IsRun (b : Nat → Board) : Prop := ∀ n, Step (b n) (b (n + 1))

/-- A board at first. -/
structure Initial (b : Board) : Prop where
  /-- No document has diagnostics. -/
  current : ∀ u, b.current u = none
  /-- The client has been told nothing. -/
  told : ∀ u, b.told u = []
  /-- No task has the gate. -/
  gate : b.gate = none
  /-- There is no task. -/
  turns : b.turns = []

/-! ## Changing an entry -/

section

variable {α : Type} {l : List α} {i : Nat} {old new a : α}

theorem mem_set_self (h : l[i]? = some old) : new ∈ l.set i new :=
  List.mem_set (List.getElem?_eq_some_iff.1 h).1 new

/-- The other entries are those that were there. -/
theorem mem_set_iff (h : l[i]? = some old) (hold : a ≠ old) (hnew : a ≠ new) :
    a ∈ l.set i new ↔ a ∈ l := by
  constructor
  · intro ha
    exact (List.mem_or_eq_of_mem_set ha).resolve_right hnew
  · intro ha
    obtain ⟨j, hj⟩ := List.mem_iff_getElem?.1 ha
    have hij : i ≠ j := by
      rintro rfl
      exact hold (Option.some.inj (hj.symm.trans h))
    exact List.mem_iff_getElem?.2 ⟨j, by rw [List.getElem?_set_ne hij, hj]⟩

end

/-! ## The gate -/

/-- A task that is past the gate is the one that has it. -/
def Orderly (b : Board) : Prop :=
  ∀ i u turn, b.turns[i]? = some (u, turn) → turn.hasGate → b.gate = some i

variable {b b' : Board} {i : Nat} {u v : Uri} {turn turn' : Turn} {ds : List Diagnostic}

/-- Only one task is past the gate. -/
theorem Orderly.unique (hb : b.Orderly) (hi : b.turns[i]? = some (u, turn))
    (hg : turn.hasGate) (hm : (v, turn') ∈ b.turns) (hg' : turn'.hasGate) :
    (v, turn') = (u, turn) := by
  obtain ⟨j, hj⟩ := List.mem_iff_getElem?.1 hm
  have hij : i = j := Option.some.inj ((hb i u turn hi hg).symm.trans (hb j v turn' hj hg'))
  subst hij
  exact Option.some.inj (hj.symm.trans hi)

/-- A new task is not past the gate. -/
theorem Orderly.append (hb : b.Orderly) (hg : turn.hasGate = false)
    (ht : b'.turns = b.turns ++ [(u, turn)]) (hgate : b'.gate = b.gate) : b'.Orderly := by
  intro j v turn' hj hg'
  rw [hgate]
  rw [ht] at hj
  rcases Nat.lt_or_ge j b.turns.length with hlt | hge
  · rw [List.getElem?_append_left hlt] at hj
    exact hb j v turn' hj hg'
  · have hm := List.mem_of_getElem? (List.getElem?_append_right hge ▸ hj)
    rw [List.mem_singleton] at hm
    cases hm
    rw [hg] at hg'
    cases hg'

/-- A task that stays before, at or past the gate keeps the order. -/
theorem Orderly.set (hb : b.Orderly) (hi : b.turns[i]? = some (u, turn))
    (ht : b'.turns = b.turns.set i (u, turn')) (hgate : b'.gate = b.gate)
    (hg : turn'.hasGate → turn.hasGate) : b'.Orderly := by
  intro j v turn'' hj hg'
  rw [hgate]
  rw [ht] at hj
  by_cases hij : i = j
  · subst hij
    rw [List.getElem?_set_self (List.getElem?_eq_some_iff.1 hi).1] at hj
    cases hj
    exact hb i u turn hi (hg hg')
  · rw [List.getElem?_set_ne hij] at hj
    exact hb j v turn'' hj hg'

theorem Initial.orderly (h : b.Initial) : b.Orderly := by
  intro i u turn hi
  rw [h.turns] at hi
  cases hi

theorem Step.orderly (h : Step b b') (hb : b.Orderly) : b'.Orderly := by
  cases h with
  | rest => exact hb
  | join u => exact hb.append rfl rfl rfl
  | close u => exact hb.append rfl rfl rfl
  | accept ds hi => exact hb.set hi rfl rfl nofun
  | @lock i u hi hfree =>
      intro j v turn hj hg
      by_cases hij : i = j
      · rw [hij]
      · rw [List.getElem?_set_ne hij] at hj
        have := hb j v turn hj hg
        rw [hfree] at this
        cases this
  | read hi => exact hb.set hi rfl rfl fun _ => rfl
  | tell hi => exact hb.set hi rfl rfl fun _ => rfl
  | @release i u hi =>
      intro j v turn hj hg
      by_cases hij : i = j
      · subst hij
        rw [List.getElem?_set_self (List.getElem?_eq_some_iff.1 hi).1] at hj
        cases hj
        cases hg
      · rw [List.getElem?_set_ne hij] at hj
        exact absurd (Option.some.inj ((hb i u _ hi rfl).symm.trans (hb j v turn hj hg))) hij

theorem IsRun.orderly {b : Nat → Board} (hb : IsRun b) (h₀ : (b 0).Initial) (n : Nat) :
    (b n).Orderly := by
  induction n with
  | zero => exact h₀.orderly
  | succ n ih => exact (hb n).orderly ih

/-! ## The last thing told -/

/-- Some task has the diagnostics of `u` still to read. -/
def Awaited (b : Board) (u : Uri) : Prop :=
  (u, .due) ∈ b.turns ∨ (u, .reading) ∈ b.turns

/-- A task of `u` has changed its diagnostics. -/
def Changed (b : Board) (u : Uri) : Prop := ∃ turn, (u, turn) ∈ b.turns ∧ turn.hasChanged

/-- The client knows the current diagnostics of `u`, or will be told. -/
structure Agrees (b : Board) (u : Uri) : Prop where
  /-- What has been read is current, or something newer will be read. -/
  held : ∀ ds, (u, .holding ds) ∈ b.turns → b.Awaited u ∨ ds = b.snapshot u
  /-- If nothing is to be told, what was told last is current. -/
  last : b.Awaited u ∨ (∃ ds, (u, .holding ds) ∈ b.turns) ∨
    (b.told u).getLast?.getD [] = b.snapshot u
  /-- A task that is past telling has told something. -/
  told : (u, .leaving) ∈ b.turns ∨ (u, .done) ∈ b.turns → b.told u ≠ []
  /-- Diagnostics come from a task. -/
  changed : b.current u = none ∨ b.Changed u

/-- What does not touch the tasks of a document that have changed it, its diagnostics or what
the client has been told about it changes nothing. -/
theorem Agrees.frame (h : b.Agrees u)
    (ht : ∀ turn, turn.hasChanged → ((u, turn) ∈ b'.turns ↔ (u, turn) ∈ b.turns))
    (hc : b'.current u = b.current u) (hm : b'.told u = b.told u) : b'.Agrees u := by
  have hw : b'.Awaited u ↔ b.Awaited u := or_congr (ht .due rfl) (ht .reading rfl)
  have hs : b'.snapshot u = b.snapshot u := by rw [snapshot, hc, snapshot]
  constructor
  case held =>
    intro ds hd
    rw [hw, hs]
    exact h.held ds ((ht _ rfl).1 hd)
  case last =>
    rw [hw, hm, hs]
    exact h.last.imp_right (Or.imp_left fun ⟨ds, hd⟩ => ⟨ds, (ht _ rfl).2 hd⟩)
  case told =>
    rw [ht _ rfl, ht _ rfl, hm]
    exact h.told
  case changed =>
    rw [hc]
    exact h.changed.imp_right fun ⟨turn, hm, hd⟩ => ⟨turn, (ht turn hd).2 hm, hd⟩

/-- A step of a task of another document does not touch the tasks of a document. -/
theorem mem_set_turns_iff_of_ne (hi : b.turns[i]? = some (v, turn)) (huv : u ≠ v)
    {turn'' : Turn} : (u, turn'') ∈ b.turns.set i (v, turn') ↔ (u, turn'') ∈ b.turns :=
  mem_set_iff hi (fun he => huv (congrArg Prod.fst he)) fun he => huv (congrArg Prod.fst he)

/-- As long as something is to be read the client need not know anything. -/
theorem Agrees.of_awaited (h : b.Agrees u) (hw : b'.Awaited u) (hm : b'.told u = b.told u)
    (ht : ∀ turn, turn = .leaving ∨ turn = .done → (u, turn) ∈ b'.turns → (u, turn) ∈ b.turns) :
    b'.Agrees u := by
  constructor
  case held => exact fun ds _ => .inl hw
  case last => exact .inl hw
  case told =>
    rw [hm]
    exact fun hd => h.told (hd.imp (ht _ (.inl rfl)) (ht _ (.inr rfl)))
  case changed => exact .inr (hw.elim (fun hd => ⟨_, hd, rfl⟩) fun hd => ⟨_, hd, rfl⟩)

/-- A task of `u` reads. -/
theorem Agrees.read (h : b.Agrees u) (hb : b.Orderly) (hi : b.turns[i]? = some (u, .reading)) :
    Agrees { b with turns := b.turns.set i (u, .holding (b.snapshot u)) } u := by
  have hnew : (u, .holding (b.snapshot u)) ∈ b.turns.set i (u, .holding (b.snapshot u)) :=
    mem_set_self hi
  constructor
  case held =>
    intro ds hd
    rcases List.mem_or_eq_of_mem_set hd with hold | heq
    · cases hb.unique hi rfl hold rfl
    · cases heq
      exact .inr rfl
  case last => exact .inr (.inl ⟨_, hnew⟩)
  case told =>
    intro hd
    refine h.told (hd.imp ?_ ?_) <;>
      exact (mem_set_iff hi (by simp) (by simp)).1
  case changed => exact .inr ⟨_, hnew, rfl⟩

/-- A task of `u` tells the client. -/
theorem Agrees.tell (h : b.Agrees u) (hi : b.turns[i]? = some (u, .holding ds))
    (hb' : Orderly { b with told := Function.update b.told u (b.told u ++ [ds]),
                            turns := b.turns.set i (u, .leaving) }) :
    Agrees { b with told := Function.update b.told u (b.told u ++ [ds]),
                    turns := b.turns.set i (u, .leaving) } u := by
  have hnew : (b.turns.set i (u, .leaving))[i]? = some (u, .leaving) :=
    List.getElem?_set_self (List.getElem?_eq_some_iff.1 hi).1
  constructor
  -- The task that has just told the client is past the gate, so no other one holds anything.
  case held =>
    intro ds' hd
    cases hb'.unique hnew rfl hd rfl
  case last =>
    rcases h.held ds (List.mem_of_getElem? hi) with hw | heq
    · refine .inl (hw.imp ?_ ?_) <;>
        exact (mem_set_iff hi (by simp) (by simp)).2
    · refine .inr (.inr ?_)
      simp only [Function.update_self, List.getLast?_concat]
      exact heq
  case told =>
    intro _
    simp only [Function.update_self]
    exact List.append_ne_nil_of_right_ne_nil _ (List.cons_ne_nil _ _)
  case changed => exact .inr ⟨_, List.mem_of_getElem? hnew, rfl⟩

/-- A task of `u` opens the gate again. -/
theorem Agrees.release (h : b.Agrees u) (hi : b.turns[i]? = some (u, .leaving)) :
    Agrees { b with gate := none, turns := b.turns.set i (u, .done) } u := by
  have ht : ∀ turn, turn ≠ .leaving → turn ≠ .done →
      ((u, turn) ∈ b.turns.set i (u, .done) ↔ (u, turn) ∈ b.turns) := fun turn h₁ h₂ =>
    mem_set_iff hi (by simp [h₁]) (by simp [h₂])
  have hw : b.Awaited u ↔
      Awaited { b with gate := none, turns := b.turns.set i (u, .done) } u :=
    (or_congr (ht .due nofun nofun) (ht .reading nofun nofun)).symm
  constructor
  case held =>
    intro ds hd
    rw [← hw]
    exact h.held ds ((ht (.holding ds) nofun nofun).1 hd)
  case last =>
    rw [← hw]
    exact h.last.imp_right
      (Or.imp_left fun ⟨ds, hd⟩ => ⟨ds, (ht (.holding ds) nofun nofun).2 hd⟩)
  case told => exact fun _ => h.told (.inl (List.mem_of_getElem? hi))
  case changed => exact .inr ⟨_, mem_set_self hi, rfl⟩

theorem Initial.agrees (h : b.Initial) (u : Uri) : b.Agrees u := by
  constructor
  case held => simp [h.turns]
  case last => simp [h.told, snapshot, h.current]
  case told => simp [h.turns]
  case changed => exact .inl (h.current u)

theorem Step.agrees (h : Step b b') (hb : b.Orderly) (ha : b.Agrees u) : b'.Agrees u := by
  have hb' := h.orderly hb
  cases h with
  | rest => exact ha
  | join v =>
      refine ha.frame (fun turn hc => ?_) rfl rfl
      have hne : turn ≠ .idle := by
        rintro rfl
        cases hc
      simp [hne]
  | close v =>
      by_cases huv : u = v
      · subst huv
        exact ha.of_awaited (.inl (by simp)) rfl (by simp)
      · exact ha.frame (by simp [huv]) (Function.update_of_ne huv _ _) rfl
  | @accept i v ds hi =>
      by_cases huv : u = v
      · subst huv
        refine ha.of_awaited (.inl (mem_set_self hi)) rfl ?_
        rintro turn (rfl | rfl) <;> exact (mem_set_iff hi (by simp) (by simp)).1
      · exact ha.frame (fun _ _ => mem_set_turns_iff_of_ne hi huv)
          (Function.update_of_ne huv _ _) rfl
  | @lock i v hi hfree =>
      by_cases huv : u = v
      · subst huv
        refine ha.of_awaited (.inr (mem_set_self hi)) rfl ?_
        rintro turn (rfl | rfl) <;> exact (mem_set_iff hi (by simp) (by simp)).1
      · exact ha.frame (fun _ _ => mem_set_turns_iff_of_ne hi huv) rfl rfl
  | @read i v hi =>
      by_cases huv : u = v
      · subst huv
        exact ha.read hb hi
      · exact ha.frame (fun _ _ => mem_set_turns_iff_of_ne hi huv) rfl rfl
  | @tell i v ds hi =>
      by_cases huv : u = v
      · subst huv
        exact ha.tell hi hb'
      · exact ha.frame (fun _ _ => mem_set_turns_iff_of_ne hi huv) rfl
          (Function.update_of_ne huv _ _)
  | @release i v hi =>
      by_cases huv : u = v
      · subst huv
        exact ha.release hi
      · exact ha.frame (fun _ _ => mem_set_turns_iff_of_ne hi huv) rfl rfl

theorem IsRun.agrees {b : Nat → Board} (hb : IsRun b) (h₀ : (b 0).Initial) (u : Uri) (n : Nat) :
    (b n).Agrees u := by
  induction n with
  | zero => exact h₀.agrees u
  | succ n ih => exact (hb n).agrees (hb.orderly h₀ n) ih

/-- A task that has changed something goes on to a turn in which it still has. -/
theorem Changed.set (h : b.Changed u) (hi : b.turns[i]? = some (v, turn))
    (ht : b'.turns = b.turns.set i (v, turn')) (hc : turn'.hasChanged) : b'.Changed u := by
  obtain ⟨x, hm, hx⟩ := h
  rw [Changed, ht]
  by_cases heq : (u, x) = (v, turn)
  · cases heq
    exact ⟨turn', mem_set_self hi, hc⟩
  · by_cases heq' : (u, x) = (v, turn')
    · exact ⟨x, heq' ▸ mem_set_self hi, hx⟩
    · exact ⟨x, (mem_set_iff hi heq heq').2 hm, hx⟩

theorem Step.changed (h : Step b b') (hc : b.Changed u) : b'.Changed u := by
  cases h with
  | rest => exact hc
  | join v => exact hc.imp fun _ hm => ⟨List.mem_append_left _ hm.1, hm.2⟩
  | close v => exact hc.imp fun _ hm => ⟨List.mem_append_left _ hm.1, hm.2⟩
  | accept ds hi => exact hc.set hi rfl rfl
  | lock hi _ => exact hc.set hi rfl rfl
  | read hi => exact hc.set hi rfl rfl
  | tell hi => exact hc.set hi rfl rfl
  | release hi => exact hc.set hi rfl rfl

/-- What has changed once has changed for ever. -/
theorem IsRun.changed {b : Nat → Board} (hb : IsRun b) {m n : Nat} (hmn : m ≤ n)
    (hc : (b m).Changed u) : (b n).Changed u := by
  induction hmn with
  | refl => exact hc
  | step _ ih => exact (hb _).changed ih

/-- At rest, the client knows what is current if there was anything to tell. -/
theorem Agrees.getLast?_told (h : b.Agrees u)
    (hrest : ∀ turn, (u, turn) ∈ b.turns → turn.owes = false)
    (hc : b.Changed u) : (b.told u).getLast? = some (b.snapshot u) := by
  have hne : b.told u ≠ [] := by
    obtain ⟨turn, hm, hd⟩ := hc
    have ho := hrest turn hm
    cases turn with
    | idle => cases hd
    | leaving => exact h.told (.inl hm)
    | done => exact h.told (.inr hm)
    | due | reading | holding ds => cases ho
  obtain (hw | hw) | ⟨ds, hd⟩ | hlast := h.last
  · cases hrest _ hw
  · cases hrest _ hw
  · cases hrest _ hd
  · rw [List.getLast?_eq_some_getLast hne] at hlast ⊢
    exact congrArg some hlast

/-! ## The order of what was told -/

/-- The points of a run at which the diagnostics of `u` were read that the client has been told
up to the point `n`. -/
structure Traced (b : Nat → Board) (n : Nat) (u : Uri) (points : List Nat) : Prop where
  /-- They follow one another. -/
  sorted : points.Pairwise (· ≤ ·)
  /-- They are not beyond `n`. -/
  bounded : ∀ p ∈ points, p ≤ n
  /-- At these points what was told was current. -/
  told : (b n).told u = points.map fun p => (b p).snapshot u
  /-- What a task holds was read after all of them. -/
  held : ∀ ds, (u, .holding ds) ∈ (b n).turns →
    ∃ m ≤ n, (∀ p ∈ points, p ≤ m) ∧ (b m).snapshot u = ds

/-- Where nobody reads or tells anything about `u` the points stay as they are. -/
theorem Traced.frame {b : Nat → Board} {n : Nat} {points : List Nat} (h : Traced b n u points)
    (ht : ∀ ds, (u, .holding ds) ∈ (b (n + 1)).turns → (u, .holding ds) ∈ (b n).turns)
    (hm : (b (n + 1)).told u = (b n).told u) : Traced b (n + 1) u points := by
  constructor
  case sorted => exact h.sorted
  case bounded => exact fun p hp => Nat.le_succ_of_le (h.bounded p hp)
  case told => rw [hm, h.told]
  case held =>
    intro ds hd
    obtain ⟨m, hle, hp, hs⟩ := h.held ds (ht ds hd)
    exact ⟨m, Nat.le_succ_of_le hle, hp, hs⟩

/-- So it is where a task goes on to another turn. -/
theorem Traced.frame_set {b : Nat → Board} {n : Nat} {points : List Nat}
    (h : Traced b n u points) (ht : (b (n + 1)).turns = (b n).turns.set i (v, turn'))
    (hne : ∀ ds, (u, .holding ds) ≠ (v, turn')) (hm : (b (n + 1)).told u = (b n).told u) :
    Traced b (n + 1) u points := by
  refine h.frame (fun ds hd => ?_) hm
  rw [ht] at hd
  exact (List.mem_or_eq_of_mem_set hd).resolve_right (hne ds)

/-- A task of `u` reads.  Nothing was read after the present point. -/
theorem Traced.read {b : Nat → Board} {n : Nat} {points : List Nat} (h : Traced b n u points)
    (hs : b (n + 1) = { b n with turns := (b n).turns.set i (u, .holding ((b n).snapshot u)) }) :
    Traced b (n + 1) u points := by
  constructor
  case sorted => exact h.sorted
  case bounded => exact fun p hp => Nat.le_succ_of_le (h.bounded p hp)
  case told =>
    rw [hs]
    exact h.told
  case held =>
    intro ds hd
    rw [hs] at hd
    rcases List.mem_or_eq_of_mem_set hd with hold | heq
    · obtain ⟨m, hle, hp, hm⟩ := h.held ds hold
      exact ⟨m, Nat.le_succ_of_le hle, hp, hm⟩
    · cases heq
      exact ⟨n, Nat.le_succ n, h.bounded, rfl⟩

/-- A task of `u` tells the client.  No other task holds anything then. -/
theorem Traced.tell {b : Nat → Board} {n : Nat} {points : List Nat} (h : Traced b n u points)
    (hi : (b n).turns[i]? = some (u, .holding ds)) (hb' : (b (n + 1)).Orderly)
    (hm : (b (n + 1)).told u = (b n).told u ++ [ds])
    (ht : (b (n + 1)).turns = (b n).turns.set i (u, .leaving)) :
    ∃ points', Traced b (n + 1) u points' := by
  obtain ⟨m, hle, hp, hs⟩ := h.held ds (List.mem_of_getElem? hi)
  have hnew : (b (n + 1)).turns[i]? = some (u, .leaving) := by
    rw [ht, List.getElem?_set_self (List.getElem?_eq_some_iff.1 hi).1]
  refine ⟨points ++ [m], ?_, ?_, ?_, ?_⟩
  case refine_1 =>
    exact List.pairwise_append.2 ⟨h.sorted, List.pairwise_singleton _ _, by simpa using hp⟩
  case refine_2 =>
    intro p hp'
    rcases List.mem_append.1 hp' with hold | heq
    · exact Nat.le_succ_of_le (h.bounded p hold)
    · rw [List.mem_singleton.1 heq]
      exact Nat.le_succ_of_le hle
  case refine_3 => rw [hm, h.told, List.map_append, List.map_singleton, hs]
  case refine_4 =>
    intro ds' hd
    cases hb'.unique hnew rfl hd rfl

/-- In every run what is told was current at points that follow one another. -/
theorem IsRun.traced {b : Nat → Board} (hb : IsRun b) (h₀ : (b 0).Initial) (u : Uri) (n : Nat) :
    ∃ points, Traced b n u points := by
  induction n with
  | zero => exact ⟨[], .nil, by simp, by simp [h₀.told], by simp [h₀.turns]⟩
  | succ n ih =>
      obtain ⟨points, h⟩ := ih
      have hstep := hb n
      have hb' := hb.orderly h₀ (n + 1)
      generalize hs : b (n + 1) = s at hstep
      cases hstep with
      | rest => exact ⟨points, h.frame (by simp [hs]) (by rw [hs])⟩
      | join v => exact ⟨points, h.frame (by simp [hs]) (by rw [hs])⟩
      | close v => exact ⟨points, h.frame (by simp [hs]) (by rw [hs])⟩
      | accept ds hi => exact ⟨points, h.frame_set (by rw [hs]) (by simp) (by rw [hs])⟩
      | lock hi hfree => exact ⟨points, h.frame_set (by rw [hs]) (by simp) (by rw [hs])⟩
      | @read i v hi =>
          by_cases huv : u = v
          · subst huv
            exact ⟨points, h.read hs⟩
          · exact ⟨points, h.frame_set (by rw [hs]) (by simp [huv]) (by rw [hs])⟩
      | @tell i v ds hi =>
          by_cases huv : u = v
          · subst huv
            exact h.tell hi (hs ▸ hb') (by simp [hs]) (by rw [hs])
          · exact ⟨points, h.frame_set (by rw [hs]) (by simp [huv]) (by simp [hs, huv])⟩
      | release hi => exact ⟨points, h.frame_set (by rw [hs]) (by simp) (by rw [hs])⟩

end Board

end PerlLint
