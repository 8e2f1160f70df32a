import PerlLint.Proofs.Config.Merge
import PerlLint.Proofs.Session.Run

/-!
# Settings that are rejected

Settings from the client are stored before they are merged.  If they cannot be merged the
configuration stays as it is, but the settings stay as well, and the configuration cannot be
built again until the client sends others.

So such settings may be noticed later: a server that has not got them takes up a change of the
configuration file, and a server that has does not.  They are noticed exactly if there is a
state of the files in which the first server would change its configuration.  Until the next
settings the two servers differ in nothing but the settings they hold (`perform_withSettings`),
and then they do not differ at all.
-/

namespace PerlLint

open Host

namespace Server

variable {fs : Files} {here : Location} {s : Server} {v : Json} {c : Config} {e : ConfigError}

/-- The configuration stays as it is if it cannot be built. -/
theorem reload_of_rejected (hs : s.clientSettings = some v) (hv : c.merge v = .error e) :
    reload fs here s = s := by
  have hmerge := (Config.sameErrors_merge c (baseConfig fs here s.root) v e).1 hv
  rw [reload, hs, layered?, hmerge]
  rfl

/-- Building the configuration again changes nothing but the configuration. -/
theorem reload_eq_self (h : (reload fs here s).config = s.config) : reload fs here s = s := by
  unfold reload at h ⊢
  split at h
  case h_1 config _ =>
    have hc : config = s.config := h
    rw [hc]
  case h_2 => rfl

theorem ne_null_of_rejected (hv : c.merge v = .error e) : v ≠ .null := by
  rintro rfl
  cases hv

/-- Settings that are not null are stored. -/
theorem applySettings_of_ne_null (hv : v ≠ .null) :
    applySettings fs here v s = reload fs here { s with clientSettings := some v } := by
  cases v with
  | null => exact absurd rfl hv
  | _ => rfl

end Server

namespace Session

/-- Whether a move may bear on the configuration. -/
def Move.configures : Move → Bool
  | .settings _ | .watches _ | .disk _ => true
  | _ => false

/-- The session with these settings stored. -/
def withSettings (v : Json) (s : Session) : Session :=
  { s with server := { s.server with clientSettings := some v } }

/-- The session after its start with a workspace and settings. -/
def started (r : Runner) (s : Session) (root : Option Uri) (options : Option Json) : Session :=
  { s with phase := .ready, server := s.server.startSession s.files r.here root options }

variable {r : Runner} {s : Session} {v : Json} {c : Config} {e : ConfigError}

/-- The session after the request that starts it. -/
theorem answerStart_eq {params : Json} {p : StartParams} (h : startParams params = .ok p) :
    s.answerStart r (some params) = (.result startResult, s.started r p.root p.options) := by
  rw [answerStart, h]
  rfl

/-- Settings that are rejected are stored, and change nothing else. -/
theorem perform_settings_of_rejected (hv : c.merge v = .error e) :
    Move.perform r s (.settings v) = s.withSettings v := by
  rw [Move.perform, Server.applySettings_of_ne_null (Server.ne_null_of_rejected hv),
    Server.reload_of_rejected rfl hv]
  rfl

/-- No state of the files changes the configuration. -/
def Steady (here : Location) (s : Session) : Prop :=
  ∀ fs, (s.server.reload fs here).config = s.server.config

/-- As long as the configuration is steady the settings that were rejected are not noticed, and
the next settings replace them. -/
theorem perform_withSettings {m : Move} (hv : c.merge v = .error e) (hs : s.Steady r.here)
    (hm : m.configures) :
    (m.perform r (s.withSettings v) = (m.perform r s).withSettings v ∧
      (m.perform r s).Steady r.here) ∨
    m.perform r (s.withSettings v) = m.perform r s := by
  cases m with
  | settings w =>
      by_cases hw : w = .null
      · subst hw
        exact .inl ⟨rfl, hs⟩
      · right
        rw [Move.perform, Move.perform, Server.applySettings_of_ne_null hw,
          Server.applySettings_of_ne_null hw]
        rfl
  | watches changed =>
      left
      have hself : (Move.watches changed).perform r s = s := by
        rw [Move.perform, Server.filesChanged, Server.reload_eq_self (hs s.files), ite_self]
      have hwith : (Move.watches changed).perform r (s.withSettings v) = s.withSettings v := by
        rw [Move.perform, Server.filesChanged, Server.reload_of_rejected rfl hv, ite_self]
      rw [hself, hwith]
      exact ⟨rfl, hs⟩
  | disk files => exact .inl ⟨rfl, hs⟩
  | _ => cases hm

/-- Along a run that bears on the configuration only, a steady session and one that has got
settings that are rejected have the same configuration. -/
theorem Steady.config_play {ms : List Move} (hv : c.merge v = .error e) (hs : s.Steady r.here)
    (hms : ∀ m ∈ ms, m.configures) :
    ((s.withSettings v).play r ms).server.config = (s.play r ms).server.config := by
  induction ms generalizing s with
  | nil => rfl
  | cons m ms ih =>
      rw [play_cons, play_cons]
      obtain ⟨hw, hs'⟩ | heq := perform_withSettings hv hs (hms m (.head _))
      · rw [hw]
        exact ih hs' fun m' hm' => hms m' (.tail _ hm')
      · rw [heq]

/-- The path of a configuration file. -/
def configFile : Uri := ⟨"file", some ⟨"", "", "", none⟩, "/.criticlint.json", none, none⟩

/-- A session that is not steady may change its configuration, and will not if it has got
settings that are rejected. -/
theorem steady_of_config_play (hv : c.merge v = .error e)
    (h : ∀ ms, (∀ m ∈ ms, m.configures) →
      ((s.withSettings v).play r ms).server.config = (s.play r ms).server.config) :
    s.Steady r.here := by
  intro fs
  -- One change of the files tells the two apart, if they can be told apart at all.
  have hnames : [configFile].any Server.namesConfigFile := by decide
  have hms : ∀ m ∈ [.disk fs, .watches [configFile]], Move.configures m := by simp [Move.configures]
  have hconfig := h _ hms
  simp only [play_cons, play_nil, Move.perform, Server.filesChanged, hnames, if_true] at hconfig
  rw [← hconfig, Server.reload_of_rejected rfl hv]
  rfl

/-- Settings that are rejected leave no trace in the configuration if and only if no state of
the files would change the configuration without them.  So it is after a notification with
settings, and after a start with settings. -/
theorem rejected_settings_untraced_iff (hv : c.merge v = .error e) (r : Runner) (s : Session) :
    ((∀ ms, (∀ m ∈ ms, m.configures) →
      ((Move.perform r s (.settings v)).play r ms).server.config
        = (s.play r ms).server.config) ↔
      ∀ fs, (s.server.reload fs r.here).config = s.server.config) ∧
    ∀ root, ((∀ ms, (∀ m ∈ ms, m.configures) →
      ((s.started r root (some v)).play r ms).server.config
        = ((s.started r root none).play r ms).server.config) ↔
      ∀ fs, ((s.started r root none).server.reload fs r.here).config
        = (s.started r root none).server.config) := by
  have hnotified : ∀ s : Session, (∀ ms, (∀ m ∈ ms, m.configures) →
      ((Move.perform r s (.settings v)).play r ms).server.config
        = (s.play r ms).server.config) ↔ s.Steady r.here := by
    intro s
    rw [perform_settings_of_rejected hv]
    exact ⟨steady_of_config_play hv, fun hs ms hms => hs.config_play hv hms⟩
  refine ⟨hnotified s, fun root => ?_⟩
  have hstarted : s.started r root (some v)
      = Move.perform r (s.started r root none) (.settings v) := rfl
  rw [hstarted]
  exact hnotified _

/-- Settings with a tier that there is not. -/
def unknownTierSettings : Json := .ofMembers [("severity", .string "medium")]

theorem merge_unknownTierSettings : Config.standard.merge unknownTierSettings
    = .error (.badSetting (.unknownTier "medium")) := rfl

/-- Without a workspace there is no file that could change the configuration. -/
theorem rejected_settings_untraced_iff_rootless :
    Config.standard.merge unknownTierSettings = .error (.badSetting (.unknownTier "medium")) ∧
    ∀ ms, (∀ m ∈ ms, m.configures) →
      (((new .empty).started ⟨[], []⟩ none (some unknownTierSettings)).play ⟨[], []⟩
          ms).server.config
        = (((new .empty).started ⟨[], []⟩ none none).play ⟨[], []⟩ ms).server.config := by
  have hiff := (rejected_settings_untraced_iff merge_unknownTierSettings ⟨[], []⟩ (new .empty)).2
  exact ⟨merge_unknownTierSettings, (hiff none).2 fun fs => rfl⟩

/-- A session in a workspace. -/
def workspaceParams : Json :=
  .ofMembers [("capabilities", .ofMembers []), ("rootUri", .string "file:///w")]

/-- What turns linting off there. -/
def disablingFiles : Files :=
  Files.empty.write [".criticlint.json", "w"] (Text.Utf8.encode "\x7b\"enabled\": false\x7d".toList)
    false

/-- Settings that are rejected may leave a trace. -/
theorem not_rejected_settings_untraced :
    ¬ ∀ (r : Runner) (fs : Files) (params : Option Json) (s₀ : Session) (before : List Move)
        (c : Config) (v : Json) (e : ConfigError),
      (new fs).request r "initialize" params = (.result startResult, s₀) →
      c.merge v = .error e →
      ∀ after, (∀ m ∈ after, m.configures) →
        ((Move.perform r (s₀.play r before) (.settings v)).play r after).server.config
          = ((s₀.play r before).play r after).server.config := by
  intro h
  have hstart : ((new .empty).request ⟨[], []⟩ "initialize" (some workspaceParams)).1
      = .result startResult := by
    decide +kernel
  have hconfig := h ⟨[], []⟩ .empty (some workspaceParams) _ [] .standard unknownTierSettings _
    (Prod.ext hstart rfl) merge_unknownTierSettings [.disk disablingFiles, .watches [configFile]]
    (by simp [Move.configures])
  revert hconfig
  decide +kernel

end Session

end PerlLint
