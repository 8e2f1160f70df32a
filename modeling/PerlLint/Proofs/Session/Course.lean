import PerlLint.Proofs.Session.Closing

/-!
# Whole sessions

A run is what happens between the initialization of a session and the request for its end.  A
*course* is what happens from the beginning on, also before the one and after the other.  It has
no end: when nothing is left to do the steps of tasks that are over go on for ever.

A course is made of *acts*, each of which happens at once.  A notification may take several:
`notify_eq_acts` says that it does nothing that is not made of them.
-/

namespace PerlLint.Session

open Host

/-- Something that happens at once. -/
inductive Act where
  /-- A move. -/
  | move (m : Move)
  /-- A request is answered. -/
  | request (method : String) (params : Option Json)
  /-- The client says that the end is near. -/
  | stop
  /-- The client says that the session is over. -/
  | exit

/-- Does what an act says. -/
def Act.perform (r : Runner) (s : Session) : Act → Session
  | .move m => m.perform r s
  | .request method params => (s.request r method params).2
  | .stop => if s.phase = .ready then { s with phase := .shutDown } else s
  | .exit => { s with phase := .exited }

/-- The sessions along a course. -/
def course (r : Runner) (files : Files) (acts : Nat → Act) : Nat → Session
  | 0 => new files
  | n + 1 => (acts n).perform r (course r files acts n)

/-- Something has happened and something else has not since: it has just happened, or this was so
one act earlier and the other thing has not just happened. -/
theorem exists_since_succ {happens ends : Nat → Prop} {n : Nat} :
    (∃ k < n + 1, happens k ∧ ∀ l, k < l → l < n + 1 → ¬ ends l) ↔
      happens n ∨ (∃ k < n, happens k ∧ ∀ l, k < l → l < n → ¬ ends l) ∧ ¬ ends n := by
  constructor
  · rintro ⟨k, hk, hhappens, hnone⟩
    rcases Nat.lt_succ_iff_lt_or_eq.1 hk with hlt | rfl
    · exact .inr ⟨⟨k, hlt, hhappens, fun l hkl hln => hnone l hkl (Nat.lt_succ_of_lt hln)⟩,
        hnone n hlt (Nat.lt_succ_self n)⟩
    · exact .inl hhappens
  · rintro (hhappens | ⟨⟨k, hk, hhappens, hnone⟩, hn⟩)
    · exact ⟨n, Nat.lt_succ_self n, hhappens, fun l hnl hln => absurd hln (by omega)⟩
    · refine ⟨k, Nat.lt_succ_of_lt hk, hhappens, fun l hkl hln => ?_⟩
      rcases Nat.lt_succ_iff_lt_or_eq.1 hln with hlt | rfl
      · exact hnone l hkl hlt
      · exact hn

variable {r : Runner} {s s' : Session} {i : Nat} {t : Task}

/-! ## The protocol -/

/-- A run consists of acts. -/
theorem play_eq_acts (ms : List Move) :
    s.play r ms = (ms.map Act.move).foldl (Act.perform r) s := by
  rw [List.foldl_map]
  rfl

/-- What a notification does consists of acts. -/
theorem notify_eq_acts (method : String) (params : Option Json) :
    ∃ as : List Act, s.notify r method params = as.foldl (Act.perform r) s := by
  unfold notify
  split
  case h_1 => exact ⟨[], rfl⟩
  case h_2 =>
    split
    case isTrue => exact ⟨[.exit], rfl⟩
    case isFalse =>
      split
      case isFalse => exact ⟨[], rfl⟩
      case isTrue hready =>
        split
        case isTrue => exact ⟨[.stop], by simp [Act.perform, hready]⟩
        case isFalse =>
          cases params with
          | none => exact ⟨[], rfl⟩
          | some v =>
              obtain ⟨ms, hms⟩ := react_eq_play (r := r) (s := s) method v
              exact ⟨ms.map .move, hms.trans (play_eq_acts ms)⟩

/-- The session has come to another phase.  It may have another configuration, and the store may
have been emptied. -/
structure Turned (s s' : Session) : Prop where
  /-- Only the phase and the server are others. -/
  frame : s' = { s with phase := s'.phase, server := s'.server }
  /-- The user knows what he knew. -/
  warned : s'.server.warned = s.server.warned
  /-- The store stays as it is, or is emptied. -/
  store : s'.server.store = s.server.store ∨ s'.server.store = s.server.store.dispose
  /-- The same documents are open. -/
  documents : s'.server.documents = s.server.documents

theorem turned_phase (s : Session) (phase : Phase) : Turned s { s with phase } :=
  ⟨rfl, rfl, .inl rfl, rfl⟩

theorem turned_answerStart (r : Runner) (s : Session) (params : Option Json) :
    Turned s (s.answerStart r params).2 := by
  unfold answerStart
  split
  case h_1 => exact turned_phase s s.phase
  case h_2 v =>
    split
    case h_1 e he => exact turned_phase s s.phase
    case h_2 p hp =>
      exact ⟨rfl, Server.startSession_warned _ _ _ _ _,
        .inl (Server.startSession_store _ _ _ _ _), Server.startSession_documents _ _ _ _ _⟩

theorem turned_answerShutdown (s : Session) (params : Option Json) :
    Turned s (s.answerShutdown params).2 := by
  unfold answerShutdown
  cases params with
  | none => exact ⟨rfl, rfl, .inr rfl, rfl⟩
  | some v => exact turned_phase s .shutDown

theorem turned_answerOther (s : Session) (method : String) (params : Option Json) :
    Turned s (s.answerOther method params).2 := by
  unfold answerOther
  split
  case isTrue => exact turned_answerShutdown s params
  case isFalse => split <;> exact turned_phase s s.phase

/-- What a request does to a session. -/
theorem turned_request (r : Runner) (s : Session) (method : String) (params : Option Json) :
    Turned s (s.request r method params).2 := by
  have hsame : Turned s s := turned_phase s s.phase
  unfold request
  split
  case h_1 => exact hsame
  case h_2 phase _ =>
    split_ifs
    case pos => exact hsame
    case pos => exact turned_phase s .exited
    case pos => exact hsame
    case pos => exact turned_answerStart r s params
    case neg => exact hsame
    case neg =>
      split
      case h_1 => exact turned_answerOther s method params
      case h_2 => exact hsame
      case h_3 => exact hsame

/-- The store is emptied by the request for the end, if it comes in time and has no parameters.  No
other request touches the store. -/
theorem store_request (r : Runner) (s : Session) (method : String) (params : Option Json) :
    (s.request r method params).2.server.store
      = if s.phase = .ready ∧ method = "shutdown" ∧ params = none then s.server.store.dispose
        else s.server.store := by
  have hstart : (s.answerStart r params).2.server.store = s.server.store := by
    unfold answerStart
    split
    · rfl
    · split
      · rfl
      · exact Server.startSession_store _ _ _ _ _
  by_cases hend : s.phase = .ready ∧ method = "shutdown" ∧ params = none
  · obtain ⟨hphase, rfl, rfl⟩ := hend
    simp [request, hphase, isMethod, answerOther, answerShutdown, Server.dispose]
  · rw [if_neg hend]
    unfold request
    split
    case h_1 => rfl
    case h_2 phase _ =>
      split_ifs
      case pos | pos | pos | neg => rfl
      case pos => exact hstart
      case neg =>
        split
        case h_1 hphase =>
          unfold answerOther
          split
          case isTrue hmethod =>
            cases params with
            | none => exact absurd ⟨hphase, hmethod, rfl⟩ hend
            | some v => rfl
          case isFalse => split <;> rfl
        case h_2 | h_3 => rfl

/-- An act is a move, or brings the session to another phase. -/
theorem Act.move_or_turned (r : Runner) (s : Session) (a : Act) :
    (∃ m, a = .move m) ∨ Turned s (a.perform r s) := by
  cases a with
  | move m => exact .inl ⟨m, rfl⟩
  | request method params => exact .inr (turned_request r s method params)
  | stop =>
      right
      rw [Act.perform]
      split
      case isTrue => exact turned_phase s .shutDown
      case isFalse => exact turned_phase s s.phase
  | exit => exact .inr (turned_phase s .exited)

/-! ## Tasks -/

theorem Turned.tasks_eq (h : Turned s s') : s'.tasks = s.tasks := by
  rw [h.frame]

/-- The outcome of a task that is over. -/
def outcome? (s : Session) (i : Nat) : Option LintOutcome := s.tasks[i]?.bind Task.outcome?

theorem outcome?_eq (ht : s.tasks[i]? = some t) : s.outcome? i = t.outcome? := by
  rw [outcome?, ht, Option.bind_some]

/-- A task that is not settled is not over. -/
theorem outcome?_of_stage (h : t.stage.outcome? = none) : t.outcome? = none := by
  unfold Task.outcome?
  split
  case h_1 o hstage => rwa [hstage] at h
  case h_2 => rfl

/-- A task is as it was, or has just been added. -/
def Untouched (s s' : Session) (i : Nat) : Prop :=
  s'.tasks[i]? = s.tasks[i]? ∨
    s.tasks[i]? = none ∧ ∃ t, s'.tasks[i]? = some t ∧ t.stage.outcome? = none

theorem Untouched.outcome?_eq (h : Untouched s s' i) : s'.outcome? i = s.outcome? i := by
  obtain hsame | ⟨hnone, t, ht, hstage⟩ := h
  · rw [outcome?, outcome?, hsame]
  · rw [Session.outcome?_eq ht, outcome?_of_stage hstage, outcome?, hnone, Option.bind_none]

theorem Untouched.getElem? (h : Untouched s s' i) (ht : s.tasks[i]? = some t) :
    s'.tasks[i]? = some t := by
  obtain hsame | ⟨hnone, -⟩ := h
  · rw [hsame, ht]
  · rw [hnone] at ht
    cases ht

theorem untouched_append (i : Nat) (ht : t.stage.outcome? = none)
    (hs : s'.tasks = s.tasks ++ [t]) : Untouched s s' i := by
  rcases Nat.lt_or_ge i s.tasks.length with hlt | hge
  · left
    rw [hs, List.getElem?_append_left hlt]
  · have hnone : s.tasks[i]? = none := List.getElem?_eq_none hge
    rw [Untouched, hs, List.getElem?_append_right hge, hnone]
    cases hj : [t][i - s.tasks.length]? with
    | none => exact .inl rfl
    | some t' =>
        cases List.mem_singleton.1 (List.mem_of_getElem? hj)
        exact .inr ⟨rfl, t, rfl, ht⟩

/-- A task is touched by its own steps only. -/
theorem untouched_perform (r : Runner) (s : Session) {a : Act} (ha : a ≠ .move (.steps i)) :
    Untouched s (a.perform r s) i := by
  obtain ⟨m, rfl⟩ | hturned := a.move_or_turned r s
  · cases m with
    | opens u language | saves u | closes u | lints u language =>
        exact untouched_append i rfl rfl
    | settings v | watches changed | disk files | faults fault => exact .inl rfl
    | ready =>
        left
        rw [Act.perform, Move.perform, send_tasks]
    | steps j =>
        left
        have hij : j ≠ i := by
          rintro rfl
          exact ha rfl
        rw [Act.perform, Move.perform]
        obtain hs | ⟨t, -, hadvance⟩ := s.step_cases r j
        · rw [hs]
        · obtain ⟨stage, htasks⟩ := hadvance.exists_tasks_eq
          rw [htasks, List.getElem?_set_ne hij]
  · left
    rw [hturned.tasks_eq]

end PerlLint.Session
