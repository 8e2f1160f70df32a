import PerlLint.Proofs.Session.Configuration

/-!
# The layers of the configuration

The configuration in force has three layers: the standard configuration, the file of the
workspace as it is now, and the settings that the client sent last.  `Config.IsBase` says what
the lower two make, and `Config.IsLayered` puts the settings on top.

Of a session that has been initialized two things are known at any time: its workspace, and which
settings came last (`Kept`).  Every move preserves this, and a move that builds the configuration
again builds it from these two and from the files.  So nothing of an older file or of older
settings is left, as long as no settings are rejected (`config_play_layered`).
-/

namespace PerlLint

open Host

namespace Config

/-! ## What a workspace makes -/

/-- The first configuration file of a directory. -/
def IsFirstFile (fs : Files) (here : Location) (dir path : String) : Prop :=
  ∃ before name after, fileNames = before ++ name :: after ∧ path = joinPath dir name ∧
    fs.isFile here path ∧ ∀ earlier ∈ before, ¬ fs.isFile here (joinPath dir earlier)

/-- What the file of a workspace makes of the standard configuration.  A file that cannot be
used makes nothing of it, also if there is another one after it. -/
inductive IsBase (fs : Files) (here : Location) : Option String → Config → Prop where
  | rootless : IsBase fs here none standard
  | fileless {dir : String} :
    (∀ name ∈ fileNames, ¬ fs.isFile here (joinPath dir name)) →
    IsBase fs here (some dir) standard
  | file {dir path : String} {bytes : List UInt8} {text : List Char} {v : Json} {c : Config} :
    IsFirstFile fs here dir path →
    fs.read here path = .ok bytes →
    Text.Utf8.decode? bytes = some text →
    Json.read text = .ok v →
    standard.merge v = .ok c →
    IsBase fs here (some dir) c
  | unusable {dir path : String} {e : ConfigError} :
    IsFirstFile fs here dir path →
    ofFile fs here path = .error e →
    IsBase fs here (some dir) standard

/-- What settings make on top of that. -/
def IsLayered (fs : Files) (here : Location) (root : Option String) (settings : Option Json)
    (c : Config) : Prop :=
  ∃ base, IsBase fs here root base ∧
    match settings with
    | none => c = base
    | some v => base.merge v = .ok c

variable {fs : Files} {here : Location} {dir path : String} {root : Option String}
  {settings : Option Json} {c : Config}

theorem discover?_eq_some_iff :
    discover? fs here dir = some path ↔ IsFirstFile fs here dir path := by
  rw [discover?, List.find?_map, Option.map_eq_some_iff]
  constructor
  · rintro ⟨name, hfind, rfl⟩
    obtain ⟨hfile, before, after, heq, hbefore⟩ := List.find?_eq_some_iff_append.1 hfind
    exact ⟨before, name, after, heq, rfl, hfile, fun e he => by simpa using hbefore e he⟩
  · rintro ⟨before, name, after, heq, rfl, hfile, hbefore⟩
    refine ⟨name, List.find?_eq_some_iff_append.2 ⟨hfile, before, after, heq, ?_⟩, rfl⟩
    exact fun e he => by simpa using hbefore e he

theorem discover?_eq_none_iff :
    discover? fs here dir = none ↔ ∀ name ∈ fileNames, ¬ fs.isFile here (joinPath dir name) := by
  simp [discover?]

/-- A file is read, decoded, parsed and merged into the standard configuration. -/
theorem ofFile_eq_ok_iff :
    ofFile fs here path = .ok c ↔ ∃ bytes text v, fs.read here path = .ok bytes ∧
      Text.Utf8.decode? bytes = some text ∧ Json.read text = .ok v ∧
      standard.merge v = .ok c := by
  unfold ofFile ofText ofSettings
  constructor
  · intro h
    split at h
    · cases h
    rename_i bytes hread
    split at h
    case h_2 => cases h
    rename_i text hdecode
    split at h
    case h_2 => cases h
    rename_i v hv
    exact ⟨bytes, text, v, hread, hdecode, hv, h⟩
  · rintro ⟨bytes, text, v, hread, hdecode, hv, hmerge⟩
    rw [hread]
    dsimp only
    rw [hdecode]
    dsimp only
    rw [hv]
    exact hmerge

/-- There is one configuration that a workspace makes, and it is the one that is loaded. -/
theorem isBase_iff : IsBase fs here root c ↔ c = Server.baseConfig fs here root := by
  constructor
  · intro h
    cases h with
    | rootless => rfl
    | fileless hnone =>
        rw [Server.baseConfig, Option.bind_some, discover?_eq_none_iff.2 hnone]
    | file hfirst hread hdecode hv hmerge =>
        have hfile := ofFile_eq_ok_iff.2 ⟨_, _, _, hread, hdecode, hv, hmerge⟩
        rw [Server.baseConfig, Option.bind_some, discover?_eq_some_iff.2 hfirst]
        dsimp only
        rw [hfile]
        rfl
    | unusable hfirst hfile =>
        rw [Server.baseConfig, Option.bind_some, discover?_eq_some_iff.2 hfirst]
        dsimp only
        rw [hfile]
        rfl
  · rintro rfl
    cases root with
    | none => exact .rootless
    | some dir =>
        rw [Server.baseConfig, Option.bind_some]
        split
        case h_1 hd => exact .fileless (discover?_eq_none_iff.1 hd)
        case h_2 path hd =>
          have hfirst := discover?_eq_some_iff.1 hd
          cases hfile : ofFile fs here path with
          | error e => exact .unusable hfirst hfile
          | ok c =>
              obtain ⟨bytes, text, v, hread, hdecode, hv, hmerge⟩ := ofFile_eq_ok_iff.1 hfile
              exact .file hfirst hread hdecode hv hmerge

theorem isLayered_iff :
    IsLayered fs here root settings c
      ↔ Server.layered? (Server.baseConfig fs here root) settings = some c := by
  unfold IsLayered
  simp only [isBase_iff, exists_eq_left]
  cases settings with
  | none =>
      rw [Server.layered?, Option.some_inj]
      exact eq_comm
  | some v =>
      rw [Server.layered?]
      dsimp only
      cases (Server.baseConfig fs here root).merge v <;> simp [Except.toOption]

end Config

namespace Server

variable {fs : Files} {here : Location} {s : Server}

theorem any_namesConfigFile_iff {changed : List Uri} :
    changed.any namesConfigFile ↔
      ∃ u ∈ changed, ∃ name ∈ Config.fileNames, name.toList <:+ u.path.toList := by
  simp [namesConfigFile]

/-- The configuration, and what it is made of besides the files. -/
def layers (s : Server) : Config × Option String × Option Json :=
  (s.config, s.root, s.clientSettings)

@[simp] theorem noteFailure_layers (s : Server) (e : LintError) :
    (s.noteFailure e).2.layers = s.layers := by
  unfold noteFailure
  split <;> rfl

/-- Building the configuration again makes it of the files, the workspace and the settings, if
the settings are not rejected. -/
theorem config_reload_iff (hs : ∀ v, s.clientSettings = some v → ∃ c c', Config.merge c v = .ok c')
    (c : Config) :
    (reload fs here s).config = c ↔ Config.IsLayered fs here s.root s.clientSettings c := by
  rw [Config.isLayered_iff]
  cases h : layered? (baseConfig fs here s.root) s.clientSettings with
  | some config =>
      rw [reload, h, Option.some_inj]
  | none =>
      exfalso
      cases hset : s.clientSettings with
      | none =>
          rw [hset] at h
          cases h
      | some v =>
          obtain ⟨c₁, c₂, hmerge⟩ := hs v hset
          rw [hset, layered?] at h
          cases hbase : (baseConfig fs here s.root).merge v with
          | ok c' =>
              rw [hbase] at h
              cases h
          | error e =>
              -- What is rejected on top of the file is rejected on top of anything.
              rw [(Config.sameErrors_merge _ c₁ v e).1 hbase] at hmerge
              cases hmerge

end Server

namespace Session

variable {r : Runner} {fs : Files} {s s₀ : Session} {m : Move} {ms before : List Move}
  {options : Option Json} {root : Option String}

/-! ## What bears on the configuration -/

/-- The settings that a move brings. -/
def Move.settings? : Move → Option Json
  | .settings v => some v
  | _ => none

/-- The settings that the client has sent with the start and after it, the last ones last.  What
is null does not count. -/
def sent (options : Option Json) (ms : List Move) : List Json :=
  (options.toList ++ ms.filterMap Move.settings?).filter (· ≠ .null)

/-- A move builds the configuration again. -/
def Move.Reloads : Move → Prop
  | .settings v => v ≠ .null
  | .watches changed => ∃ u ∈ changed, ∃ name ∈ Config.fileNames, name.toList <:+ u.path.toList
  | _ => False

theorem sent_append_settings {v : Json} (hv : v ≠ .null) :
    (sent options (ms ++ [.settings v])).getLast? = some v := by
  simp [sent, Move.settings?, hv]

theorem sent_append_of_not_settings (hm : ∀ v, m = .settings v → v = .null) :
    sent options (ms ++ [m]) = sent options ms := by
  cases m with
  | settings v => simp [sent, Move.settings?, hm v rfl]
  | _ => simp [sent, Move.settings?]

/-! ## What moves preserve -/

/-- A step of a task does not bear on the configuration. -/
theorem layers_stepTask (r : Runner) (s : Session) (i : Nat) (t : Task) :
    (s.stepTask r i t).server.layers = s.server.layers := by
  have hfollow (job : Job) (course : Activity (Files × Output)) :
      (s.follow i t job course).server.layers = s.server.layers := by
    rw [follow_server]
  unfold stepTask
  split
  case h_1 language _ =>
    split
    case h_1 => rfl
    case h_2 job server hs =>
      obtain ⟨-, rfl⟩ := Server.startLint_eq_ok hs
      rfl
  case h_2 job _ =>
    split
    case h_1 => rfl
    case h_2 course _ => exact hfollow job course
  case h_3 job wake _ => exact hfollow job _
  case h_4 job result _ =>
    dsimp only
    obtain ⟨-, hs⟩ | ⟨ds, -, -, hs⟩ := s.server.settle_cases job result
    · rw [hs]
      rfl
    · rw [hs]
      rfl
  case h_5 outcome _ =>
    split
    case h_1 => rfl
    case h_2 e _ =>
      have hnote := s.server.noteFailure_layers e
      split
      all_goals
        rename_i he
        rw [he] at hnote
        simpa using hnote
    case h_3 => rfl
  case h_6 => split <;> rfl
  case h_7 => rfl
  case h_8 => simp
  case h_9 => rfl
  case h_10 => rfl

theorem layers_step (r : Runner) (s : Session) (i : Nat) :
    (s.step r i).server.layers = s.server.layers := by
  unfold step
  split
  · exact s.layers_stepTask r i _
  · rfl

/-- A move that does not build the configuration again does not bear on it. -/
theorem layers_perform (hm : ¬ m.Reloads) : (m.perform r s).server.layers = s.server.layers := by
  cases m with
  | settings v =>
      have hv : v = .null := by simpa [Move.Reloads] using hm
      subst hv
      rfl
  | watches changed =>
      have hnone : changed.any Server.namesConfigFile = false := by
        rw [Bool.eq_false_iff, ne_eq, Server.any_namesConfigFile_iff]
        exact hm
      rw [Move.perform, Server.filesChanged, hnone]
      rfl
  | ready => simp [Move.perform]
  | steps i => exact s.layers_step r i
  | _ => rfl

/-- The workspace of a session, and the settings that came last. -/
structure Kept (root : Option String) (latest : Option Json) (s : Session) : Prop where
  /-- The workspace is known. -/
  root : s.server.root = root
  /-- So are the settings. -/
  latest : s.server.clientSettings = latest

theorem Kept.perform (h : Kept root (sent options ms).getLast? s) (m : Move) :
    Kept root (sent options (ms ++ [m])).getLast? (m.perform r s) := by
  by_cases hm : m.Reloads
  · cases m with
    | settings v =>
        rw [sent_append_settings hm, Move.perform, Server.applySettings_of_ne_null hm]
        exact ⟨by simpa using h.root, by simp⟩
    | watches changed =>
        have hsent : sent options (ms ++ [.watches changed]) = sent options ms :=
          sent_append_of_not_settings (by simp)
        rw [hsent, Move.perform, Server.filesChanged,
          if_pos (Server.any_namesConfigFile_iff.2 hm)]
        exact ⟨by simpa using h.root, by simpa using h.latest⟩
    | _ => exact hm.elim
  · have hlayers := layers_perform (r := r) (s := s) hm
    have hsettings (v : Json) (hv : m = .settings v) : v = .null := by
      subst hv
      simpa [Move.Reloads] using hm
    simp only [Server.layers, Prod.mk.injEq] at hlayers
    rw [sent_append_of_not_settings hsettings]
    exact ⟨hlayers.2.1.trans h.root, hlayers.2.2.trans h.latest⟩

theorem Kept.play (h : Kept root (sent options before).getLast? s) (r : Runner)
    (ms : List Move) : Kept root (sent options (before ++ ms)).getLast? (s.play r ms) := by
  induction ms generalizing before s with
  | nil => simpa using h
  | cons m ms ih =>
      have hnext := ih (h.perform (r := r) m)
      rwa [List.append_assoc] at hnext

/-! ## What the configuration is -/

/-- A move that builds the configuration again makes it of the files, the workspace and the
settings that came last. -/
theorem Kept.config_perform_iff (h : Kept root (sent options ms).getLast? s) (hm : m.Reloads)
    (hv : ∀ v ∈ sent options (ms ++ [m]), ∃ c c', Config.merge c v = .ok c') (c : Config) :
    (m.perform r s).server.config = c ↔
      Config.IsLayered s.files r.here root (sent options (ms ++ [m])).getLast? c := by
  have hlast (v : Json) (hl : (sent options (ms ++ [m])).getLast? = some v) :
      ∃ c c', Config.merge c v = .ok c' := hv v (List.mem_of_getLast? hl)
  rw [← h.root]
  cases m with
  | settings v =>
      rw [sent_append_settings hm] at hlast ⊢
      rw [Move.perform, Server.applySettings_of_ne_null hm]
      exact Server.config_reload_iff (s := { s.server with clientSettings := some v }) hlast c
  | watches changed =>
      have hsent : sent options (ms ++ [.watches changed]) = sent options ms :=
        sent_append_of_not_settings (by simp)
      rw [hsent, ← h.latest] at hlast ⊢
      rw [Move.perform, Server.filesChanged, if_pos (Server.any_namesConfigFile_iff.2 hm)]
      exact Server.config_reload_iff hlast c
  | _ => exact hm.elim

/-- A session that starts without settings has its workspace, and the configuration that the
workspace makes. -/
theorem started_none (r : Runner) (fs : Files) (root : Option Uri) :
    Kept (root.bind Uri.filePath?) (sent none []).getLast? ((new fs).started r root none) ∧
    ∀ c, ((new fs).started r root none).server.config = c ↔
      Config.IsLayered fs r.here (root.bind Uri.filePath?) (sent none []).getLast? c := by
  have hserver : ((new fs).started r root none).server
      = { Server.empty with root := root.bind Uri.filePath? }.reload fs r.here := by
    rw [started, Server.startSession]
    split
    case h_1 path hpath => rw [hpath]; rfl
    case h_2 hpath => rw [hpath]; rfl
  rw [hserver]
  exact ⟨⟨by rw [hserver, Server.reload_root], by rw [hserver, Server.reload_clientSettings]; rfl⟩,
    Server.config_reload_iff (by simp [Server.empty])⟩

/-- The settings of the start are taken like settings that come right after it. -/
theorem started_some (r : Runner) (s : Session) (root : Option Uri) (v : Json) :
    s.started r root (some v) = Move.perform r (s.started r root none) (.settings v) := rfl

theorem sent_some (v : Json) : sent (some v) [] = sent none [.settings v] := by
  simp [sent, Move.settings?]

theorem kept_started (r : Runner) (fs : Files) (root : Option Uri) (options : Option Json) :
    Kept (root.bind Uri.filePath?) (sent options []).getLast?
      ((new fs).started r root options) := by
  have hnone := (started_none r fs root).1
  cases options with
  | none => exact hnone
  | some v =>
      rw [started_some, sent_some]
      exact hnone.perform (.settings v)

theorem config_started_iff (r : Runner) (fs : Files) (root : Option Uri) (options : Option Json)
    (hv : ∀ v ∈ sent options [], ∃ c c', Config.merge c v = .ok c') (c : Config) :
    ((new fs).started r root options).server.config = c ↔
      Config.IsLayered fs r.here (root.bind Uri.filePath?) (sent options []).getLast? c := by
  obtain ⟨hkept, hconfig⟩ := started_none r fs root
  cases options with
  | none => exact hconfig c
  | some v =>
      rw [sent_some] at hv ⊢
      by_cases hnull : v = .null
      · subst hnull
        exact hconfig c
      · exact hkept.config_perform_iff (m := .settings v) hnull hv c

/-- After its start, and after every move that builds the configuration again, the configuration
is made of the file of the workspace as it is then and of the settings that came last.  Between
these moves it stays as it is.  So it depends on nothing else that has happened. -/
theorem config_play_layered {params : Json} {p : StartParams} (r : Runner) (fs : Files)
    (ms : List Move)
    (hp : startParams params = .ok p)
    (hs : (new fs).request r "initialize" (some params) = (.result startResult, s₀))
    (hv : ∀ v ∈ sent p.options ms, ∃ c c', Config.merge c v = .ok c') :
    (∀ c, s₀.server.config = c ↔
      Config.IsLayered fs r.here (p.root.bind Uri.filePath?) (sent p.options []).getLast? c) ∧
    ∀ before m after, ms = before ++ m :: after →
      (m.Reloads → ∀ c, (m.perform r (s₀.play r before)).server.config = c ↔
        Config.IsLayered (s₀.play r before).files r.here (p.root.bind Uri.filePath?)
          (sent p.options (before ++ [m])).getLast? c) ∧
      (¬ m.Reloads →
        (m.perform r (s₀.play r before)).server.config = (s₀.play r before).server.config) := by
  have hs₀ : s₀ = (new fs).started r p.root p.options := by
    have hanswer := answerStart_eq (r := r) (s := new fs) hp
    have hr : (new fs).request r "initialize" (some params) = (new fs).answerStart r params := by
      simp [request, new, isMethod]
    rw [hr, hanswer, Prod.mk.injEq] at hs
    exact hs.2.symm
  subst hs₀
  have hpart (before after : List Move) (h : ms = before ++ after) (v : Json)
      (hmem : v ∈ sent p.options before) : ∃ c c', Config.merge c v = .ok c' := by
    refine hv v ?_
    subst h
    simp only [sent, List.filterMap_append, List.filter_append, List.mem_append] at hmem ⊢
    exact hmem.imp_right .inl
  refine ⟨config_started_iff r fs p.root p.options (hpart [] ms rfl), ?_⟩
  intro before m after hms
  have hkept := (kept_started r fs p.root p.options).play r before
  constructor
  · intro hm
    exact hkept.config_perform_iff hm (hpart (before ++ [m]) after (by simpa using hms))
  · intro hm
    exact congrArg Prod.fst (layers_perform hm)

/-- Settings that name a tier. -/
def tierSettings : Json := .ofMembers [("severity", .string "harsh")]

/-- A file that has come after the start counts, and so do settings that come after it. -/
theorem config_play_layered_written :
    ((((new .empty).request ⟨[], []⟩ "initialize" (some workspaceParams)).2.play ⟨[], []⟩
        [.disk disablingFiles, .watches [configFile], .settings tierSettings]).server.config
      = { Config.standard with enabled := false, severity := .harsh }) ∧
    Config.IsLayered disablingFiles [] (some "/w") (some tierSettings)
      { Config.standard with enabled := false, severity := .harsh } := by
  obtain ⟨p, hp, hroot, hoptions⟩ : ∃ p, startParams workspaceParams = .ok p ∧
      p.root.bind Uri.filePath? = some "/w" ∧ p.options = none := by
    refine ⟨⟨some ⟨"file", some ⟨"", "", "", none⟩, "/w", none, none⟩, none⟩, ?_, ?_, rfl⟩
    · rfl
    · decide +kernel
  have hstart : ((new .empty).request ⟨[], []⟩ "initialize" (some workspaceParams)).1
      = .result startResult := by
    decide +kernel
  have hconfig : (((new .empty).request ⟨[], []⟩ "initialize" (some workspaceParams)).2.play
      ⟨[], []⟩ [.disk disablingFiles, .watches [configFile], .settings tierSettings]).server.config
      = { Config.standard with enabled := false, severity := .harsh } := by
    decide +kernel
  have hlayers := config_play_layered ⟨[], []⟩ .empty
    [.disk disablingFiles, .watches [configFile], .settings tierSettings] hp
    (Prod.ext hstart rfl) (by
      rw [hoptions]
      intro v hv
      cases List.mem_singleton.1 hv
      exact ⟨.standard, _, rfl⟩)
  have hlast := (hlayers.2 [.disk disablingFiles, .watches [configFile]] (.settings tierSettings) []
    rfl).1 nofun
  rw [hroot, hoptions] at hlast
  exact ⟨hconfig, (hlast _).1 hconfig⟩

end Session

end PerlLint
