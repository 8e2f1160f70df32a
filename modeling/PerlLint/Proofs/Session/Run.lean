import PerlLint.Proofs.Session.Step
import PerlLint.Session.Protocol

/-!
# Runs of a session

Between its initialization and the request for its end a session makes *moves*: it takes
notifications, it is asked for lints, its tasks step, and the machine changes under it: its
files do, and its input and output may fail.  A run is a list of moves, in any order.

`Move.perform` does one move and `play` does a list of them.  `react_eq_play` and
`lint_eq_play` say that what the protocol does in this time are runs: the handler of a close,
say, is the close followed by steps of the task that tells the client.
-/

namespace PerlLint

open Host

/-- The diagnostics that a message carries, if it is about the diagnostics of `u`. -/
def Notice.diagnostics? (u : Uri) : Notice → Option (List Diagnostic)
  | .diagnostics v ds => if v = u then some ds else none
  | _ => none

namespace Session

/-! ## Moves -/

/-- Something that happens in a session. -/
inductive Move where
  /-- A document is opened. -/
  | opens (u : Uri) (language : String)
  /-- A document is saved. -/
  | saves (u : Uri)
  /-- A document is closed. -/
  | closes (u : Uri)
  /-- A lint is asked for. -/
  | lints (u : Uri) (language : Option String)
  /-- The client sends settings. -/
  | settings (v : Json)
  /-- The client says that files have changed. -/
  | watches (changed : List Uri)
  /-- The client says that it is ready. -/
  | ready
  /-- The files of the machine change. -/
  | disk (files : Files)
  /-- Input and output begin to fail, or work again. -/
  | faults (fault : Option String)
  /-- A task steps. -/
  | steps (i : Nat)

/-- The document that a notification or a request for a lint is about. -/
def Move.uri? : Move → Option Uri
  | .opens u _ | .saves u | .closes u | .lints u _ => some u
  | _ => none

/-- Does a move. -/
def Move.perform (r : Runner) (s : Session) : Move → Session
  | .opens u language => s.didOpen u language
  | .saves u => s.didSave u
  | .closes u => s.beginClose u
  | .lints u language => s.spawn u (.requested language)
  | .settings v => { s with server := s.server.applySettings s.files r.here v }
  | .watches changed => { s with server := s.server.filesChanged s.files r.here changed }
  | .ready => s.send (.log readyText)
  | .disk files => { s with files }
  | .faults fault => { s with fault }
  | .steps i => s.step r i

/-- Does one move after the other. -/
def play (r : Runner) (s : Session) (ms : List Move) : Session := ms.foldl (Move.perform r) s

variable {r : Runner} {s : Session}

@[simp] theorem play_nil : s.play r [] = s := rfl

@[simp] theorem play_cons (m : Move) (ms : List Move) :
    s.play r (m :: ms) = (m.perform r s).play r ms := rfl

theorem play_append (ms ms' : List Move) : s.play r (ms ++ ms') = (s.play r ms).play r ms' :=
  List.foldl_append

@[simp] theorem play_singleton (m : Move) : s.play r [m] = m.perform r s := rfl

/-- One move more is done, or none if there is none. -/
theorem play_take_succ (ms : List Move) (n : Nat) :
    s.play r (ms.take (n + 1)) = s.play r (ms.take n) ∨
    ∃ m ∈ ms, s.play r (ms.take (n + 1)) = m.perform r (s.play r (ms.take n)) := by
  rw [List.take_add_one]
  cases h : ms[n]? with
  | none => exact .inl (by simp)
  | some m => exact .inr ⟨m, List.mem_of_getElem? h, by simp [play_append]⟩

/-- What every move preserves is preserved. -/
theorem play_induction {P : Session → Prop} {ms : List Move} (h₀ : P s)
    (hm : ∀ s, ∀ m ∈ ms, P s → P (m.perform r s)) : P (s.play r ms) := by
  induction ms generalizing s with
  | nil => exact h₀
  | cons m ms ih =>
      exact ih (hm s m (.head _) h₀) fun s' m' hm' => hm s' m' (.tail _ hm')

/-! ## What a move does -/

/-- A move puts a task at the end, tells the client something that is not about diagnostics,
changes the server but not its store, changes the machine, or advances a task. -/
inductive Moved (s : Session) (m : Move) : Session → Prop where
  | rest : Moved s m s
  | request {server : Server} {u : Uri} (language : Option String) :
    m.uri? = some u →
    server.store = s.server.store →
    Moved s m ({ s with server }.spawn u (.requested language))
  | close {u : Uri} : m = .closes u → Moved s m (s.beginClose u)
  | configure {server : Server} : server.store = s.server.store → Moved s m { s with server }
  | log (text : String) : Moved s m (s.send (.log text))
  | machine (files : Files) (fault : Option String) : Moved s m { s with files, fault }
  | advance {i : Nat} {t : Task} {s' : Session} :
    s.tasks[i]? = some t →
    Advance s i t s' →
    Moved s m s'

theorem moved (r : Runner) (s : Session) (m : Move) : Moved s m (m.perform r s) := by
  cases m with
  | opens u language => exact .request (some language) rfl rfl
  | saves u => exact .request (s.server.language? u) rfl rfl
  | closes u => exact .close rfl
  | lints u language => exact .request language rfl rfl
  | settings v => exact .configure (Server.applySettings_store s.files r.here v s.server)
  | watches changed => exact .configure (Server.filesChanged_store s.files r.here changed s.server)
  | ready => exact .log readyText
  | disk files => exact .machine files s.fault
  | faults fault => exact .machine s.files fault
  | steps i =>
      obtain hs | ⟨t, ht, ha⟩ := s.step_cases r i
      · rw [Move.perform, hs]
        exact .rest
      · exact .advance ht ha

/-- Moves are made within a phase. -/
theorem perform_phase (r : Runner) (s : Session) (m : Move) : (m.perform r s).phase = s.phase := by
  have hm := moved r s m
  generalize m.perform r s = s' at hm
  cases hm with
  | log text => exact send_phase s _
  | advance _ ha => exact ha.phase_eq
  | _ => rfl

/-! ## What the client knows -/

/-- The current diagnostics of a document. -/
def current (s : Session) (u : Uri) : List Diagnostic := (s.server.store.get? u).getD []

/-- The diagnostics of a document that the client has been told, the last ones last. -/
def told (s : Session) (u : Uri) : List (List Diagnostic) :=
  s.log.reverse.filterMap (Notice.diagnostics? u)

theorem told_send {n : Notice} (hs : s.phase = .ready) (u : Uri) :
    (s.send n).told u = s.told u ++ (n.diagnostics? u).toList := by
  have hlog : (s.send n).log = n :: s.log := by simp [send, hs, Phase.passes]
  rw [told, hlog, List.reverse_cons, List.filterMap_append, told]
  cases h : n.diagnostics? u <;> simp [h]

/-- A session that has been initialized and in which nothing has happened since. -/
structure IsInitialized (s : Session) : Prop where
  /-- It has been initialized. -/
  phase : s.phase = .ready
  /-- No task has the gate. -/
  gate : s.gate = none
  /-- There is no task. -/
  tasks : s.tasks = []
  /-- The store has nothing in it. -/
  store : s.server.store = .empty
  /-- The client has been told nothing. -/
  log : s.log = []

/-- The request that starts a session initializes it. -/
theorem isInitialized_of_request {fs : Files} {params : Option Json} {v : Json}
    (h : (new fs).request r "initialize" params = (.result v, s)) : s.IsInitialized := by
  have hr : (new fs).request r "initialize" params = (new fs).answerStart r params := by
    simp [request, new, isMethod]
  rw [hr] at h
  unfold answerStart at h
  split at h
  · cases h
  · split at h
    · cases h
    · cases h
      exact ⟨rfl, rfl, rfl, Server.startSession_store _ _ _ _ _, rfl⟩

/-! ## The handlers -/

/-- A task is driven on by its steps. -/
theorem driveFrom_eq_play (i n : Nat) (s : Session) :
    ∃ k, driveFrom r i n s = s.play r (List.replicate k (.steps i)) := by
  induction n generalizing s with
  | zero => exact ⟨0, rfl⟩
  | succ n ih =>
      rw [driveFrom]
      split
      · exact ⟨0, rfl⟩
      · obtain ⟨k, hk⟩ := ih (s.step r i)
        exact ⟨k + 1, hk⟩

theorem finishFrom_eq_play (i n : Nat) (s : Session) :
    ∃ k, finishFrom r i n s = s.play r (List.replicate k (.steps i)) := by
  induction n generalizing s with
  | zero => exact ⟨0, rfl⟩
  | succ n ih =>
      rw [finishFrom]
      split
      · exact ⟨0, rfl⟩
      · obtain ⟨k, hk⟩ := driveFrom_eq_play (r := r) i stageBound (s.step r i)
        obtain ⟨l, hl⟩ := ih (s.drive r i)
        refine ⟨k + 1 + l, ?_⟩
        rw [hl, drive, hk, ← List.replicate_append_replicate, play_append, List.replicate_succ,
          play_cons]
        rfl

/-- A close is handled by the close itself, and by steps of the task that tells the client. -/
theorem didClose_eq_play (u : Uri) :
    ∃ k, s.didClose r u = s.play r (.closes u :: List.replicate k (.steps s.tasks.length)) :=
  finishFrom_eq_play s.tasks.length roundBound (s.beginClose u)

/-- A lint from the beginning to the end is a run. -/
theorem lint_eq_play (u : Uri) (language : Option String) :
    ∃ k, (s.lint r u language).2
      = s.play r (.lints u language :: List.replicate k (.steps s.tasks.length)) :=
  finishFrom_eq_play s.tasks.length roundBound (s.spawn u (.requested language))

/-- Parameters that are wrong do nothing. -/
theorem getD_map_eq_play {α : Type} (o : Option α) {f : α → Session}
    (h : ∀ a, ∃ ms, f a = s.play r ms) : ∃ ms, (o.map f).getD s = s.play r ms := by
  cases o with
  | none => exact ⟨[], rfl⟩
  | some a => exact h a

/-- What a notification does is a run. -/
theorem react_eq_play (method : String) (v : Json) :
    ∃ ms, s.react r method v = s.play r ms := by
  unfold react
  dsimp only
  split
  case h_1 => exact getD_map_eq_play _ fun _ => ⟨[.ready], rfl⟩
  case h_2 => exact getD_map_eq_play _ fun p => ⟨[.opens p.1 p.2], rfl⟩
  case h_3 => exact getD_map_eq_play _ fun u => ⟨[.saves u], rfl⟩
  case h_4 =>
    refine getD_map_eq_play _ fun u => ?_
    obtain ⟨k, hk⟩ := didClose_eq_play (r := r) (s := s) u
    exact ⟨_, hk⟩
  case h_5 => exact getD_map_eq_play _ fun settings => ⟨[.settings settings], rfl⟩
  case h_6 => exact getD_map_eq_play _ fun changed => ⟨[.watches changed], rfl⟩
  case h_7 => exact ⟨[], rfl⟩

end Session

end PerlLint
