import PerlLint.Config.Settings

/-!
# Merging as overriding

Settings are merged into a configuration by way of JSON: the configuration is written, the
members of the settings are set in what was written, and the result is read.  `override` reads
the settings alone, and takes what they lack from the configuration.  `ofMembers?_overlay` says
that this comes to the same.

So whether settings can be merged, and what is wrong with them if not, does not depend on the
configuration (`sameErrors_merge`).
-/

namespace PerlLint

namespace Json.Members

variable {ms base top : Members} {k key : String} {v : Json}

/-! ## Members of an overlay -/

theorem get?_append (ms ms' : Members) (k : String) :
    get? (ms ++ ms') k = (get? ms k).or (get? ms' k) := by
  induction ms with
  | nil => rfl
  | cons m ms ih =>
      obtain ⟨l, w⟩ := m
      rw [List.cons_append, get?, get?]
      split
      · rfl
      · exact ih

theorem get?_insert_self (ms : Members) (key : String) (v : Json) :
    get? (ms.insert key v) key = some v := by
  induction ms with
  | nil => simp [insert, get?]
  | cons m ms ih =>
      obtain ⟨l, w⟩ := m
      rw [insert]
      split
      · simp [get?]
      · rename_i hl
        split
        · simp [get?]
        · rw [get?, if_neg hl, ih]

theorem get?_insert_ne (ms : Members) (v : Json) (h : k ≠ key) :
    get? (ms.insert key v) k = get? ms k := by
  induction ms with
  | nil => simp [insert, get?, h.symm]
  | cons m ms ih =>
      obtain ⟨l, w⟩ := m
      rw [insert]
      split
      · rename_i hl
        rw [get?, if_neg h.symm, get?, if_neg (hl ▸ h.symm)]
      · split
        · rw [get?, if_neg h.symm]
        · rw [get?, get?, ih]

/-- The last value of a key in `top` counts, or else the value in `base`. -/
theorem get?_overlay (base top : Members) (k : String) :
    get? (base.overlay top) k = (get? top.reverse k).or (get? base k) := by
  induction top generalizing base with
  | nil => rfl
  | cons m top ih =>
      obtain ⟨key, v⟩ := m
      have hcons : base.overlay ((key, v) :: top) = (base.insert key v).overlay top := rfl
      -- The members are set from the first on, so a later one has been set over this one.
      rw [hcons, ih, List.reverse_cons, get?_append, Option.or_assoc]
      congr 1
      by_cases h : k = key
      · subst h
        simp [get?_insert_self, get?]
      · simp [get?_insert_ne base v h, get?, Ne.symm h]

end Json.Members

/-! ## Reading what was written -/

namespace Setting

theorem readItems_map_string (ss : List String) : readItems (ss.map .string) = .ok ss := by
  induction ss with
  | nil => rfl
  | cons s ss ih =>
      rw [List.map_cons, readItems, ih]
      rfl

theorem readTier_name (t : Tier) : readTier (.string t.name) = .ok t := by
  cases t <;> rfl

/-- A key of an overlay has the last value in the settings, or else what was written. -/
theorem field_overlay {α : Type} {base : Json.Members} {key : String} {v : Json} {a : α}
    (top : Json.Members) (standard : α) {readValue : Json → Except SettingError α}
    (hb : base.get? key = some v) (hr : readValue v = .ok a) :
    field (base.overlay top) key standard readValue = field top.reverse key a readValue := by
  rw [field, Json.Members.get?_overlay, hb, field]
  cases Json.Members.get? top.reverse key with
  | none => exact hr
  | some w => rfl

end Setting

namespace Config

/-- The configuration with the last value of each key in its field. -/
def override (c : Config) (top : Json.Members) : Except SettingError Config := do
  let ms := top.reverse
  let brutal ← Setting.field ms "brutal" c.brutal Setting.readLevel
  let cruel ← Setting.field ms "cruel" c.cruel Setting.readLevel
  let enabled ← Setting.field ms "enabled" c.enabled Setting.readBool
  let excludedPolicies ← Setting.field ms "excludedPolicies" c.excludedPolicies Setting.readTexts
  let executable ← Setting.field ms "executable" c.executable Setting.readText
  let gentle ← Setting.field ms "gentle" c.gentle Setting.readLevel
  let harsh ← Setting.field ms "harsh" c.harsh Setting.readLevel
  let path ← Setting.field ms "path" c.path Setting.readText
  let severity ← Setting.field ms "severity" c.severity Setting.readTier
  let stern ← Setting.field ms "stern" c.stern Setting.readLevel
  let useProfile ← Setting.field ms "useProfile" c.useProfile Setting.readBool
  return { enabled, severity, useProfile, excludedPolicies, path, executable, brutal, cruel,
           harsh, stern, gentle }

/-- A configuration that is written, overlaid and read is overridden. -/
theorem ofMembers?_overlay (c : Config) (top : Json.Members) :
    ofMembers? (c.toMembers.overlay top) = c.override top := by
  unfold ofMembers? override
  rw [Setting.field_overlay (a := c.brutal) top _ rfl rfl,
    Setting.field_overlay (a := c.cruel) top _ rfl rfl,
    Setting.field_overlay (a := c.enabled) top _ rfl rfl,
    Setting.field_overlay top _ rfl (Setting.readItems_map_string c.excludedPolicies),
    Setting.field_overlay (a := c.executable) top _ rfl rfl,
    Setting.field_overlay (a := c.gentle) top _ rfl rfl,
    Setting.field_overlay (a := c.harsh) top _ rfl rfl,
    Setting.field_overlay (a := c.path) top _ rfl rfl,
    Setting.field_overlay top _ rfl (Setting.readTier_name c.severity),
    Setting.field_overlay (a := c.stern) top _ rfl rfl,
    Setting.field_overlay (a := c.useProfile) top _ rfl rfl]

/-- Merging settings overrides the configuration with the object that is meant. -/
theorem merge_of_object {c : Config} {settings : Json} {top : Json.Members}
    (h : settingsSection settings = .object top) :
    c.merge settings = (c.override top).mapError ConfigError.badSetting := by
  rw [merge, h]
  dsimp only
  rw [ofMembers?_overlay]
  cases c.override top <;> rfl

/-! ## Errors do not depend on the configuration -/

/-- Two readings go wrong together, and in the same way. -/
def SameErrors {ε α β : Type} (x : Except ε α) (y : Except ε β) : Prop :=
  ∀ e, x = .error e ↔ y = .error e

theorem sameErrors_ok {ε α β : Type} (a : α) (b : β) :
    SameErrors (.ok a : Except ε α) (.ok b : Except ε β) :=
  fun _ => iff_of_false nofun nofun

theorem SameErrors.bind {ε α β α' β' : Type} {x : Except ε α} {y : Except ε β}
    {f : α → Except ε α'} {g : β → Except ε β'} (h : SameErrors x y)
    (hf : ∀ a b, SameErrors (f a) (g b)) : SameErrors (x >>= f) (y >>= g) := by
  cases x with
  | error e =>
      rw [(h e).1 rfl]
      exact fun e' => ⟨fun he => by cases he; rfl, fun he => by cases he; rfl⟩
  | ok a =>
      cases y with
      | error e => cases (h e).2 rfl
      | ok b => exact hf a b

theorem SameErrors.mapError {ε ε' α β : Type} {x : Except ε α} {y : Except ε β}
    (h : SameErrors x y) (f : ε → ε') : SameErrors (x.mapError f) (y.mapError f) := by
  cases x with
  | error e =>
      rw [(h e).1 rfl]
      exact fun e' => ⟨fun he => by cases he; rfl, fun he => by cases he; rfl⟩
  | ok a =>
      cases y with
      | error e => cases (h e).2 rfl
      | ok b => exact sameErrors_ok a b

theorem sameErrors_field {α : Type} (ms : Json.Members) (key : String) (a b : α)
    (readValue : Json → Except SettingError α) :
    SameErrors (Setting.field ms key a readValue) (Setting.field ms key b readValue) := by
  unfold Setting.field
  split
  · exact fun _ => Iff.rfl
  · exact sameErrors_ok a b

theorem sameErrors_override (c c' : Config) (top : Json.Members) :
    SameErrors (c.override top) (c'.override top) := by
  unfold override
  iterate 11 refine (sameErrors_field _ _ _ _ _).bind fun _ _ => ?_
  exact sameErrors_ok _ _

/-- Settings that cannot be merged into one configuration cannot be merged into any. -/
theorem sameErrors_merge (c c' : Config) (settings : Json) :
    SameErrors (c.merge settings) (c'.merge settings) := by
  cases h : settingsSection settings with
  | object top =>
      rw [merge_of_object h, merge_of_object h]
      exact (sameErrors_override c c' top).mapError _
  | null =>
      rw [merge, merge, h]
      exact sameErrors_ok c c'
  | _ =>
      rw [merge, merge, h]
      exact fun _ => Iff.rfl

end Config

end PerlLint
