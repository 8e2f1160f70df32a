import PerlLint.Proofs.Session.Board
import PerlLint.Proofs.Session.Run
import PerlLint.Proofs.Store.History

/-!
# What the client is told about a document

The server publishes the diagnostics of a document from several tasks: every lint that the
store accepts does so, and every close.  The store may change between the moment at which a
task reads it and the moment at which the client hears from the task.

The theorem at the end says that this does no harm.  Whatever the order of steps, the client is
told sets that were current one after the other, so it never hears of an older set after a
newer one.  And once no task has anything left to tell, the client knows the current set.

The proof forgets all of a session but its board.  A move of the session is a step of the
board (`Live.step_board`), and for boards the two facts have been shown.
-/

namespace PerlLint

/-- The turn of a task in a stage. -/
def Stage.turn : Stage → Turn
  | .requested _ | .admitted _ | .running _ _ | .ended _ _ => .idle
  | .decided outcome => if outcome.isPublished then .due else .idle
  | .waiting _ => .due
  | .atGate _ => .reading
  | .holding ds _ => .holding ds
  | .sent _ => .leaving
  | .finished o => if o.all LintOutcome.isPublished then .done else .idle

/-- A lint of `u` has a ticket of `u`, and only a close and a lint whose diagnostics were
accepted go on to tell the client. -/
def Stage.IsSound (u : Uri) : Stage → Prop
  | .admitted job | .running job _ | .ended job _ => job.ticket.uri = u
  | .waiting o | .atGate o | .holding _ o | .sent o => o.all LintOutcome.isPublished
  | _ => True

/-- The document of a task and its turn. -/
def Task.entry (t : Task) : Uri × Turn := (t.uri, t.stage.turn)

namespace Session

/-- The board of a session. -/
def board (s : Session) : Board where
  current := s.server.store.get?
  told := s.told
  gate := s.gate
  turns := s.tasks.map Task.entry

/-- Holds from the initialization of a session to the request for its end. -/
structure Live (s : Session) : Prop where
  /-- Messages about diagnostics reach the client. -/
  phase : s.phase = .ready
  /-- The tasks are sound. -/
  sound : ∀ t ∈ s.tasks, t.stage.IsSound t.uri

variable {r : Runner} {s s₀ s' : Session} {i : Nat} {t : Task} {u : Uri} {m : Move}

theorem turns_getElem? (ht : s.tasks[i]? = some t) :
    s.board.turns[i]? = some (t.uri, t.stage.turn) := by
  rw [board, List.getElem?_map, ht]
  rfl

/-- A task that enters a stage changes its entry. -/
theorem board_enter (stage : Stage) :
    (s.enter i t stage).board
      = { s.board with turns := s.board.turns.set i (t.uri, stage.turn) } := by
  simp only [board, enter_tasks, List.map_set]
  rfl

/-- A task that enters a stage with the same turn does nothing to the board. -/
theorem step_board_of_turn_eq {stage : Stage} (ht : s.tasks[i]? = some t)
    (hb : s'.board = s.board) (h : stage.turn = t.stage.turn) :
    Board.Step s.board (s'.enter i t stage).board := by
  have hset : s.board.turns.set i (t.uri, stage.turn) = s.board.turns := by
    obtain ⟨hlt, he⟩ := List.getElem?_eq_some_iff.1 (turns_getElem? ht)
    rw [h, ← he, List.set_getElem_self]
  rw [board_enter, hb, hset]
  exact .rest

theorem turn_of_job? {stage : Stage} {job : Job} (h : stage.job? = some job) :
    stage.turn = .idle := by
  cases stage with
  | admitted _ | running _ _ | ended _ _ => rfl
  | _ => cases h

theorem isSound_of_job? {stage : Stage} {job : Job} (h : stage.job? = some job) :
    stage.IsSound u ↔ job.ticket.uri = u := by
  cases stage with
  | admitted _ | running _ _ | ended _ _ =>
      cases h
      rfl
  | _ => cases h

/-- Only the outcome of a lint whose diagnostics were accepted counts its diagnostics. -/
theorem isPublished_eq_false {outcome : LintOutcome} (h : ∀ n, outcome ≠ .published n) :
    outcome.isPublished = false := by
  cases outcome with
  | published n => exact absurd rfl (h n)
  | _ => rfl

/-! ## Sound tasks -/

/-- Every task is sound. -/
def Sound (s : Session) : Prop := ∀ t ∈ s.tasks, t.stage.IsSound t.uri

theorem Sound.spawn {stage : Stage} (h : s.Sound) (hs : stage.IsSound u) :
    (s.spawn u stage).Sound := by
  intro t ht
  rcases List.mem_append.1 ht with hold | heq
  · exact h t hold
  · rw [List.mem_singleton.1 heq]
    exact hs

theorem Sound.enter {stage : Stage} (h : s.Sound) (hs : stage.IsSound t.uri) :
    (s.enter i t stage).Sound := by
  intro t' ht'
  rcases List.mem_or_eq_of_mem_set ht' with hold | heq
  · exact h t' hold
  · rw [heq]
    exact hs

theorem Sound.send (h : s.Sound) (n : Notice) : (s.send n).Sound := by
  rw [Sound, send_tasks]
  exact h

/-- Steps keep the tasks sound. -/
theorem Sound.advance (h : s.Sound) (ht : s.tasks[i]? = some t) (ha : Advance s i t s') :
    s'.Sound := by
  have hsound := h t (List.mem_of_getElem? ht)
  cases ha with
  | skip _ => exact h.enter trivial
  | @start language job server _ hs =>
      obtain ⟨hticket, -⟩ := Server.startLint_eq_ok hs
      exact Sound.enter (s := { s with server }) h (congrArg Ticket.uri hticket)
  | run files hj hj' =>
      exact Sound.enter (s := { s with files }) h
        ((isSound_of_job? hj').2 ((isSound_of_job? hj).1 hsound))
  | settle _ => exact h.enter trivial
  | rearm _ hp => exact h.enter hp
  | drop _ _ => exact h.enter trivial
  | fail _ _ _ => exact h.enter trivial
  | @warn outcome server text _ _ _ =>
      exact Sound.enter (Sound.send (s := { s with server }) h _) trivial
  | lock hstage _ =>
      rw [hstage] at hsound
      exact h.enter hsound
  | read hstage =>
      rw [hstage] at hsound
      exact h.enter hsound
  | tell hstage =>
      rw [hstage] at hsound
      exact (h.send _).enter hsound
  | release _ => exact h.enter trivial

/-- Every move keeps the tasks sound. -/
theorem Sound.perform (h : s.Sound) (r : Runner) (m : Move) : (m.perform r s).Sound := by
  have hm := moved r s m
  generalize m.perform r s = s' at hm
  cases hm with
  | rest => exact h
  | request language _ _ => exact h.spawn trivial
  | close _ => exact h.spawn rfl
  | configure _ => exact h
  | log text => exact h.send _
  | machine files fault => exact h
  | advance ht ha => exact h.advance ht ha

theorem IsInitialized.live (h : s.IsInitialized) : s.Live where
  phase := h.phase
  sound := by
    intro t ht
    rw [h.tasks] at ht
    cases ht

/-- Every move keeps the session live. -/
theorem Live.perform (h : s.Live) (r : Runner) (m : Move) : (m.perform r s).Live where
  phase := (perform_phase r s m).trans h.phase
  sound := Sound.perform h.sound r m

theorem Live.play (h : s.Live) (ms : List Move) : (s.play r ms).Live :=
  play_induction h fun _ m _ hs => hs.perform r m

/-! ## Steps of the board -/

theorem board_server (server : Server) {c : Uri → Option (List Diagnostic)}
    (h : server.store.get? = c) :
    ({ s with server } : Session).board = { s.board with current := c } :=
  h ▸ rfl

theorem board_of_store {server : Server} (h : server.store = s.server.store) :
    ({ s with server } : Session).board = s.board :=
  board_server server (congrArg Store.get? h)

/-- The board forgets messages about other things. -/
theorem board_send (hp : s.phase = .ready) {n : Notice} (hn : ∀ u, n.diagnostics? u = none) :
    (s.send n).board = s.board := by
  have htold : (s.send n).told = s.told := by
    funext u
    rw [told_send hp, hn u, Option.toList_none, List.append_nil]
  simp [board, htold]

/-- A message about diagnostics is written on the board. -/
theorem board_send_diagnostics (hp : s.phase = .ready) (u : Uri) (ds : List Diagnostic) :
    (s.send (.diagnostics u ds)).board
      = { s.board with told := Function.update s.board.told u (s.board.told u ++ [ds]) } := by
  have htold : (s.send (.diagnostics u ds)).told = Function.update s.told u (s.told u ++ [ds]) := by
    funext v
    rw [told_send hp]
    by_cases h : v = u
    · subst h
      simp [Notice.diagnostics?]
    · simp [Notice.diagnostics?, h, Ne.symm h]
  simp [board, htold]

/-- A decision of the store is a step of the board. -/
theorem step_board_settle {job : Job} (ht : s.tasks[i]? = some t) (hj : t.stage.job? = some job)
    (hu : job.ticket.uri = t.uri) (result : Except LintError (List Record)) :
    Board.Step s.board ({ s with server := (s.server.settle job result).2 }.enter i t
      (.decided (s.server.settle job result).1)).board := by
  obtain ⟨hno, hs⟩ | ⟨ds, ho, hp, hs⟩ := s.server.settle_cases job result
  · rw [hs]
    exact step_board_of_turn_eq ht rfl
      (by rw [turn_of_job? hj, Stage.turn, isPublished_eq_false hno]; rfl)
  · have hcur : (s.server.store.publish job.ticket ds).2.get?
        = Function.update s.server.store.get? t.uri (some ds) := by
      funext v
      by_cases h : v = t.uri
      · rw [h, Function.update_self, ← hu, Store.get?_publish_self hp]
      · rw [Function.update_of_ne h, Store.get?_publish_ne (hu ▸ h)]
    have hturn := turns_getElem? ht
    rw [turn_of_job? hj] at hturn
    rw [ho, board_enter, board_server (s.server.settle job result).2 (by rw [hs, hcur])]
    exact .accept ds hturn

/-- A step of a task is a step of the board. -/
theorem Live.step_board_advance (h : s.Live) (ht : s.tasks[i]? = some t)
    (ha : Advance s i t s') : Board.Step s.board s'.board := by
  have hsound := h.sound t (List.mem_of_getElem? ht)
  have hturn := turns_getElem? ht
  cases ha with
  | skip hstage => exact step_board_of_turn_eq ht rfl (by rw [hstage]; rfl)
  | start hstage hs =>
      -- A ticket may open a slot, but there are no diagnostics in it.
      obtain ⟨-, rfl⟩ := Server.startLint_eq_ok hs
      refine step_board_of_turn_eq ht ?_ (by rw [hstage]; rfl)
      exact board_server _ (funext (s.server.store.get?_start t.uri))
  | run files hj hj' =>
      exact step_board_of_turn_eq ht rfl (by rw [turn_of_job? hj, turn_of_job? hj'])
  | settle hstage =>
      have hj := congrArg Stage.job? hstage
      exact step_board_settle ht hj ((isSound_of_job? hj).1 hsound) _
  | rearm hstage hp =>
      exact step_board_of_turn_eq ht (board_of_store rfl) (by rw [hstage]; simp [Stage.turn, hp])
  | drop hstage hp => exact step_board_of_turn_eq ht rfl (by rw [hstage]; simp [Stage.turn, hp])
  | fail hstage hp hstore =>
      exact step_board_of_turn_eq ht (board_of_store hstore)
        (by rw [hstage]; simp [Stage.turn, hp])
  | warn text hstage hp hstore =>
      refine step_board_of_turn_eq ht ?_ (by rw [hstage]; simp [Stage.turn, hp])
      rw [board_send (by exact h.phase) fun _ => rfl, board_of_store hstore]
  | lock hstage hfree =>
      rw [hstage] at hturn
      rw [board_enter]
      exact .lock hturn hfree
  | read hstage =>
      rw [hstage] at hturn
      rw [board_enter]
      exact .read hturn
  | tell hstage =>
      rw [hstage] at hturn
      rw [board_enter, board_send_diagnostics h.phase]
      exact .tell hturn
  | @release o hstage =>
      rw [hstage] at hturn hsound
      have hdone : (Stage.finished o).turn = .done := if_pos hsound
      rw [board_enter, hdone]
      exact .release hturn

/-- A new task is a new entry. -/
theorem board_spawn (stage : Stage) :
    (s.spawn u stage).board = { s.board with turns := s.board.turns ++ [(u, stage.turn)] } := by
  simp only [board, spawn_tasks, List.map_append]
  rfl

/-- A move is a step of the board. -/
theorem Live.step_board (h : s.Live) (r : Runner) (m : Move) :
    Board.Step s.board (m.perform r s).board := by
  have hm := moved r s m
  generalize m.perform r s = s' at hm
  cases hm with
  | rest => exact .rest
  | @request server u language hu hstore =>
      rw [board_spawn, board_of_store hstore]
      exact .join u
  | @close u hu =>
      have hcur : (s.server.store.clear u).2.get?
          = Function.update s.server.store.get? u none := by
        funext v
        by_cases h : v = u
        · rw [h, Function.update_self, Store.get?_clear_self]
        · rw [Function.update_of_ne h, Store.get?_clear_ne _ h]
      rw [beginClose, board_spawn, board_server (s.server.closeDocument u) hcur]
      exact .close u
  | configure hstore =>
      rw [board_of_store hstore]
      exact .rest
  | log text =>
      rw [board_send h.phase fun _ => rfl]
      exact .rest
  | machine files fault => exact .rest
  | advance ht ha => exact h.step_board_advance ht ha

/-! ## Runs -/

theorem IsInitialized.initial_board (h : s.IsInitialized) : s.board.Initial where
  current := by
    intro u
    simp only [board, h.store]
    rfl
  told := by
    intro u
    simp [board, told, h.log]
  gate := h.gate
  turns := by rw [board, h.tasks, List.map_nil]

/-- The boards along a run of the session are a run. -/
theorem Live.isRun_board (h : s₀.Live) (r : Runner) (ms : List Move) :
    Board.IsRun fun n => (s₀.play r (ms.take n)).board := by
  intro n
  dsimp only
  obtain hs | ⟨m, -, hs⟩ := play_take_succ (r := r) (s := s₀) ms n
  · rw [hs]
    exact .rest
  · rw [hs]
    exact (h.play (ms.take n)).step_board r m

/-- What the board says about a task. -/
theorem mem_turns {turn : Turn} :
    (u, turn) ∈ s.board.turns ↔ ∃ t ∈ s.tasks, t.uri = u ∧ t.stage.turn = turn := by
  simp only [board, List.mem_map, Task.entry, Prod.mk.injEq]

/-- At the end of a run the board agrees with the client. -/
theorem IsInitialized.agrees_play (h₀ : s₀.IsInitialized) (r : Runner) (ms : List Move)
    (u : Uri) : (s₀.play r ms).board.Agrees u := by
  have hrun := h₀.live.isRun_board r ms
  have ha := hrun.agrees h₀.initial_board u ms.length
  rwa [List.take_length] at ha

/-- Of each document the client is told sets that were current at points of the run that
follow one another.  When no task has anything left to tell about the document, the client has
been told the current set last, if a task has changed the set or there ever was one. -/
theorem notices_follow_store (h₀ : s₀.IsInitialized) (r : Runner) (ms : List Move) (u : Uri) :
    (∃ points : List Nat, points.Pairwise (· ≤ ·) ∧ (∀ n ∈ points, n ≤ ms.length) ∧
      (s₀.play r ms).told u = points.map fun n => (s₀.play r (ms.take n)).current u) ∧
    ((∀ t ∈ (s₀.play r ms).tasks, t.uri = u → t.stage.turn.owes = false) →
      ((∃ t ∈ (s₀.play r ms).tasks, t.uri = u ∧ t.stage.turn.hasChanged) ∨
        ∃ n ≤ ms.length, (s₀.play r (ms.take n)).server.store.get? u ≠ none) →
      ((s₀.play r ms).told u).getLast? = some ((s₀.play r ms).current u)) := by
  have hrun := h₀.live.isRun_board r ms
  have hinit := h₀.initial_board
  constructor
  · obtain ⟨points, htraced⟩ := hrun.traced hinit u ms.length
    have htold := htraced.told
    simp only [List.take_length] at htold
    exact ⟨points, htraced.sorted, htraced.bounded, htold⟩
  · intro hrest hchanged
    have hc : (s₀.play r ms).board.Changed u := by
      rcases hchanged with ⟨t, ht, hu, hc⟩ | ⟨n, hn, hget⟩
      · exact ⟨_, mem_turns.2 ⟨t, ht, hu, rfl⟩, hc⟩
      · have hc := hrun.changed hn ((hrun.agrees hinit u n).changed.resolve_left hget)
        simpa only [List.take_length] using hc
    refine (h₀.agrees_play r ms u).getLast?_told (fun turn hm => ?_) hc
    obtain ⟨t, ht, hu, rfl⟩ := mem_turns.1 hm
    exact hrest t ht hu

/-- A machine whose critic has one violation to report. -/
def sampleFiles : Host.Files :=
  let critic := Text.Utf8.encode "printf '5~|~1~|~1~|~m~|~e~|~P~||~\\n'\n".toList
  (Host.Files.empty.write ["perlcritic", "bin"] critic true).put ["printf", "bin"]
    (.utility .printf)

/-- How the critic is found there. -/
def sampleRunner : Runner := ⟨[], ["/bin"]⟩

/-- A session on this machine after its start. -/
def sampleSession : Session := { new sampleFiles with phase := .ready }

theorem sampleSession_isInitialized : sampleSession.IsInitialized := ⟨rfl, rfl, rfl, rfl, rfl⟩

/-- A document is opened, and linted twice.  The second lint is accepted while the first one
holds what it has read. -/
def overlappingLints : List Move :=
  .opens Store.sampleDocument "perl" :: .saves Store.sampleDocument ::
    (List.replicate 6 (.steps 0) ++ List.replicate 4 (.steps 1) ++
      List.replicate 2 (.steps 0) ++ List.replicate 4 (.steps 1))

/-- The client is told twice, and knows the current set in the end. -/
theorem notices_follow_store_overlapping :
    sampleSession.IsInitialized ∧
    ((sampleSession.play sampleRunner overlappingLints).told Store.sampleDocument).getLast?
      = some ((sampleSession.play sampleRunner overlappingLints).current Store.sampleDocument) ∧
    ((sampleSession.play sampleRunner overlappingLints).told Store.sampleDocument).length = 2 ∧
    (sampleSession.play sampleRunner overlappingLints).current Store.sampleDocument ≠ [] := by
  have hlast := (notices_follow_store sampleSession_isInitialized sampleRunner overlappingLints
    Store.sampleDocument).2
  have hend : (∀ t ∈ (sampleSession.play sampleRunner overlappingLints).tasks,
        t.uri = Store.sampleDocument → t.stage.turn.owes = false) ∧
      (∃ t ∈ (sampleSession.play sampleRunner overlappingLints).tasks,
        t.uri = Store.sampleDocument ∧ t.stage.turn.hasChanged) ∧
      ((sampleSession.play sampleRunner overlappingLints).told Store.sampleDocument).length = 2 ∧
      (sampleSession.play sampleRunner overlappingLints).current Store.sampleDocument ≠ [] := by
    decide +kernel
  obtain ⟨hrest, hchanged, htold, hcurrent⟩ := hend
  exact ⟨sampleSession_isInitialized, hlast hrest (.inl hchanged), htold, hcurrent⟩

end Session

end PerlLint
