import Mathlib.Data.List.Basic
import PerlLint.Proofs.Config.Merge

/-!
# Overriding field by field

What settings do to a configuration is said here without reading anything.  `IsSection` says which
value is meant, by the four places where it may stand.  `Overrides` says field by field what
becomes of a configuration: a field has what its key stands for, or stays as it is if the settings
lack the key.  `IsFault` says what can be wrong: that the value of a key stands for nothing, as
`IsBool`, `IsText`, `IsTexts` and `IsTier` have it.  A level cannot be wrong (`exists_isLevel`).

Each reader succeeds exactly with what a value stands for, so overriding succeeds exactly with what
the fields are overridden by (`override_eq_ok_iff`), and it can only fail for a fault
(`exists_overrides`).
-/

namespace PerlLint

theorem bind_eq_ok {ε α β : Type} {x : Except ε α} {f : α → Except ε β} {b : β} :
    x >>= f = .ok b ↔ ∃ a, x = .ok a ∧ f a = .ok b := by
  cases x with
  | error e => exact iff_of_false nofun (by rintro ⟨a, ha, -⟩; cases ha)
  | ok a =>
      constructor
      · intro h
        exact ⟨a, rfl, h⟩
      · rintro ⟨a', ha, h⟩
        cases ha
        exact h

/-! ## The section that is meant -/

/-- The value is the part of the settings that is meant. -/
inductive IsSection (settings : Json) : Json → Prop where
  | named {v : Json} :
    settings.get? "criticlint" = some v →
    IsSection settings v
  | dotted {v : Json} :
    settings.get? "criticlint" = none →
    settings.get? "perl-toolbox.lint" = some v →
    IsSection settings v
  | nested {toolbox v : Json} :
    settings.get? "criticlint" = none →
    settings.get? "perl-toolbox.lint" = none →
    settings.get? "perl-toolbox" = some toolbox →
    toolbox.get? "lint" = some v →
    IsSection settings v
  | whole :
    settings.get? "criticlint" = none →
    settings.get? "perl-toolbox.lint" = none →
    (∀ toolbox, settings.get? "perl-toolbox" = some toolbox → toolbox.get? "lint" = none) →
    IsSection settings settings

theorem isSection_iff {settings v : Json} :
    IsSection settings v ↔ v = settingsSection settings := by
  constructor
  · intro h
    cases h with
    | named hnamed => rw [settingsSection, hnamed]
    | dotted hnamed hdotted => rw [settingsSection, hnamed, hdotted]
    | nested hnamed hdotted htoolbox hlint =>
        rw [settingsSection, hnamed, hdotted, htoolbox, Option.bind_some, hlint]
    | whole hnamed hdotted hnested =>
        rw [settingsSection, hnamed, hdotted, Option.bind_eq_none_iff.2 hnested]
  · rintro rfl
    unfold settingsSection
    split
    case h_1 hnamed => exact .named hnamed
    case h_2 hnamed =>
      split
      case h_1 hdotted => exact .dotted hnamed hdotted
      case h_2 hdotted =>
        split
        case h_1 hnested =>
          obtain ⟨toolbox, htoolbox, hlint⟩ := Option.bind_eq_some_iff.1 hnested
          exact .nested hnamed hdotted htoolbox hlint
        case h_2 hnested => exact .whole hnamed hdotted (Option.bind_eq_none_iff.1 hnested)

/-! ## What values stand for -/

namespace Setting

/-- The value is the truth value. -/
inductive IsBool : Json → Bool → Prop where
  | bool (b : Bool) : IsBool (.bool b) b

/-- The value is the text. -/
inductive IsText : Json → String → Prop where
  | text (s : String) : IsText (.string s) s

/-- The value is an array of the texts. -/
inductive IsTexts : Json → List String → Prop where
  | texts (ss : List String) : IsTexts (.array (ss.map .string)) ss

/-- The value is a text that names the tier. -/
inductive IsTier : Json → Tier → Prop where
  | tier {s : String} {t : Tier} :
    Tier.ofString? s = some t →
    IsTier (.string s) t

/-- The value is the level setting, or no text and the level setting is empty. -/
inductive IsLevel : Json → String → Prop where
  | text (s : String) : IsLevel (.string s) s
  | other {v : Json} :
    (∀ s, v ≠ .string s) →
    IsLevel v ""

variable {v : Json}

theorem readBool_eq_ok {b : Bool} : readBool v = .ok b ↔ IsBool v b := by
  constructor
  · intro h
    cases v with
    | bool b' => cases h; exact .bool b
    | _ => cases h
  · rintro ⟨⟩
    rfl

theorem readText_eq_ok {s : String} : readText v = .ok s ↔ IsText v s := by
  constructor
  · intro h
    cases v with
    | string s' => cases h; exact .text s
    | _ => cases h
  · rintro ⟨⟩
    rfl

theorem readItems_eq_ok {vs : List Json} {ss : List String} :
    readItems vs = .ok ss ↔ vs = ss.map .string := by
  constructor
  · intro h
    induction vs generalizing ss with
    | nil => cases h; rfl
    | cons v vs ih =>
        obtain ⟨s, hs, hrest⟩ := bind_eq_ok.1 h
        obtain ⟨ss', hss, heq⟩ := bind_eq_ok.1 hrest
        cases heq
        obtain ⟨⟩ := readText_eq_ok.1 hs
        rw [ih hss, List.map_cons]
  · rintro rfl
    exact readItems_map_string ss

theorem readTexts_eq_ok {ss : List String} : readTexts v = .ok ss ↔ IsTexts v ss := by
  constructor
  · intro h
    cases v with
    | array vs => exact readItems_eq_ok.1 h ▸ .texts ss
    | _ => cases h
  · rintro ⟨⟩
    exact readItems_map_string ss

theorem readTier_eq_ok {t : Tier} : readTier v = .ok t ↔ IsTier v t := by
  constructor
  · intro h
    obtain ⟨s, hs, hname⟩ := bind_eq_ok.1 h
    obtain ⟨⟩ := readText_eq_ok.1 hs
    cases htier : Tier.ofString? s with
    | none => rw [htier] at hname; cases hname
    | some t' => rw [htier] at hname; cases hname; exact .tier htier
  · rintro ⟨htier⟩
    exact bind_eq_ok.2 ⟨_, rfl, by rw [htier]⟩

theorem readLevel_eq_ok {s : String} : readLevel v = .ok s ↔ IsLevel v s := by
  constructor
  · intro h
    cases v with
    | string s' => cases h; exact .text s
    | _ => cases h; exact .other nofun
  · intro h
    cases h with
    | text => rfl
    | other hother =>
        cases v with
        | string s' => exact absurd rfl (hother s')
        | _ => rfl

theorem exists_isLevel (v : Json) : ∃ s, IsLevel v s := by
  cases v with
  | string s => exact ⟨s, .text s⟩
  | _ => exact ⟨"", .other nofun⟩

end Setting

/-! ## One field -/

/-- The value of a key.  If the key stands more than once, its last value counts. -/
def Json.Members.last? (ms : Members) (key : String) : Option Json := get? ms.reverse key

section Fields

variable {α : Type} {Means : Json → α → Prop} {ms : Json.Members} {key : String} {old new : α}

/-- A field is set to what the value of its key means, or kept if there is none. -/
inductive Overridden (Means : Json → α → Prop) (ms : Json.Members) (key : String) (old : α) :
    α → Prop where
  | set {v : Json} {new : α} :
    ms.last? key = some v →
    Means v new →
    Overridden Means ms key old new
  | kept :
    ms.last? key = none →
    Overridden Means ms key old old

/-- The key is there, and its value means nothing. -/
def Meaningless (Means : Json → α → Prop) (ms : Json.Members) (key : String) : Prop :=
  ∃ v, ms.last? key = some v ∧ ∀ a, ¬ Means v a

theorem Overridden.not_meaningless (h : Overridden Means ms key old new) :
    ¬ Meaningless Means ms key := by
  rintro ⟨v, hv, hnone⟩
  cases h with
  | set hw hmeans =>
      obtain rfl := Option.some.inj (hv.symm.trans hw)
      exact hnone _ hmeans
  | kept habsent => cases hv.symm.trans habsent

theorem exists_overridden (h : ¬ Meaningless Means ms key) (old : α) :
    ∃ new, Overridden Means ms key old new := by
  cases hv : ms.last? key with
  | none => exact ⟨old, .kept hv⟩
  | some v =>
      obtain ⟨a, ha⟩ : ∃ a, Means v a :=
        Classical.byContradiction fun hnone => h ⟨v, hv, not_exists.1 hnone⟩
      exact ⟨a, .set hv ha⟩

/-- A field is read as what it is overridden by, if its reader knows what values mean. -/
theorem field_eq_ok {readValue : Json → Except SettingError α}
    (hread : ∀ {v a}, readValue v = .ok a ↔ Means v a) :
    Setting.field ms.reverse key old readValue = .ok new ↔ Overridden Means ms key old new := by
  unfold Setting.field
  constructor
  · intro h
    split at h
    case h_1 v hv => exact .set hv (hread.1 h)
    case h_2 hv => cases h; exact .kept hv
  · intro h
    cases h with
    | set hv hmeans =>
        rw [Json.Members.last?] at hv
        rw [hv]
        exact hread.2 hmeans
    | kept hv =>
        rw [Json.Members.last?] at hv
        rw [hv]

end Fields

/-! ## All fields -/

namespace Config

open Setting (IsBool IsText IsTexts IsTier IsLevel)

variable {c c' : Config} {ms : Json.Members}

/-- Each field of the second configuration is that of the first, overridden by its key. -/
structure Overrides (c : Config) (ms : Json.Members) (c' : Config) : Prop where
  enabled : Overridden IsBool ms "enabled" c.enabled c'.enabled
  severity : Overridden IsTier ms "severity" c.severity c'.severity
  useProfile : Overridden IsBool ms "useProfile" c.useProfile c'.useProfile
  excludedPolicies :
    Overridden IsTexts ms "excludedPolicies" c.excludedPolicies c'.excludedPolicies
  path : Overridden IsText ms "path" c.path c'.path
  executable : Overridden IsText ms "executable" c.executable c'.executable
  brutal : Overridden IsLevel ms "brutal" c.brutal c'.brutal
  cruel : Overridden IsLevel ms "cruel" c.cruel c'.cruel
  harsh : Overridden IsLevel ms "harsh" c.harsh c'.harsh
  stern : Overridden IsLevel ms "stern" c.stern c'.stern
  gentle : Overridden IsLevel ms "gentle" c.gentle c'.gentle

/-- A key has a value that its field cannot have. -/
inductive IsFault (ms : Json.Members) : Prop where
  | bool {key : String} :
    key ∈ ["enabled", "useProfile"] →
    Meaningless IsBool ms key →
    IsFault ms
  | text {key : String} :
    key ∈ ["path", "executable"] →
    Meaningless IsText ms key →
    IsFault ms
  | texts :
    Meaningless IsTexts ms "excludedPolicies" →
    IsFault ms
  | tier :
    Meaningless IsTier ms "severity" →
    IsFault ms

theorem override_eq_ok_iff : c.override ms = .ok c' ↔ Overrides c ms c' := by
  unfold override
  simp only [bind_eq_ok, field_eq_ok Setting.readBool_eq_ok, field_eq_ok Setting.readText_eq_ok,
    field_eq_ok Setting.readTexts_eq_ok, field_eq_ok Setting.readTier_eq_ok,
    field_eq_ok Setting.readLevel_eq_ok]
  constructor
  · rintro ⟨brutal, hbrutal, cruel, hcruel, enabled, henabled, policies, hpolicies, executable,
      hexecutable, gentle, hgentle, harsh, hharsh, path, hpath, severity, hseverity, stern, hstern,
      useProfile, huseProfile, heq⟩
    cases heq
    exact ⟨henabled, hseverity, huseProfile, hpolicies, hpath, hexecutable, hbrutal, hcruel,
      hharsh, hstern, hgentle⟩
  · intro h
    exact ⟨_, h.brutal, _, h.cruel, _, h.enabled, _, h.excludedPolicies, _, h.executable, _,
      h.gentle, _, h.harsh, _, h.path, _, h.severity, _, h.stern, _, h.useProfile, rfl⟩

theorem Overrides.not_isFault (h : Overrides c ms c') : ¬ IsFault ms := by
  intro hfault
  cases hfault with
  | bool hkey hnone =>
      rcases List.mem_pair.1 hkey with rfl | rfl
      · exact h.enabled.not_meaningless hnone
      · exact h.useProfile.not_meaningless hnone
  | text hkey hnone =>
      rcases List.mem_pair.1 hkey with rfl | rfl
      · exact h.path.not_meaningless hnone
      · exact h.executable.not_meaningless hnone
  | texts hnone => exact h.excludedPolicies.not_meaningless hnone
  | tier hnone => exact h.severity.not_meaningless hnone

/-- Without a fault every field can be overridden. -/
theorem exists_overrides (h : ¬ IsFault ms) (c : Config) : ∃ c', Overrides c ms c' := by
  have hbool : ∀ key ∈ ["enabled", "useProfile"], ¬ Meaningless IsBool ms key :=
    fun key hkey hnone => h (.bool hkey hnone)
  have htext : ∀ key ∈ ["path", "executable"], ¬ Meaningless IsText ms key :=
    fun key hkey hnone => h (.text hkey hnone)
  have hlevel : ∀ key, ¬ Meaningless IsLevel ms key := by
    rintro key ⟨v, -, hnone⟩
    obtain ⟨s, hs⟩ := Setting.exists_isLevel v
    exact hnone s hs
  obtain ⟨enabled, henabled⟩ := exists_overridden (hbool "enabled" (by simp)) c.enabled
  obtain ⟨useProfile, huseProfile⟩ := exists_overridden (hbool "useProfile" (by simp)) c.useProfile
  obtain ⟨path, hpath⟩ := exists_overridden (htext "path" (by simp)) c.path
  obtain ⟨executable, hexecutable⟩ := exists_overridden (htext "executable" (by simp)) c.executable
  obtain ⟨policies, hpolicies⟩ := exists_overridden (mt .texts h) c.excludedPolicies
  obtain ⟨severity, hseverity⟩ := exists_overridden (mt .tier h) c.severity
  obtain ⟨brutal, hbrutal⟩ := exists_overridden (hlevel "brutal") c.brutal
  obtain ⟨cruel, hcruel⟩ := exists_overridden (hlevel "cruel") c.cruel
  obtain ⟨harsh, hharsh⟩ := exists_overridden (hlevel "harsh") c.harsh
  obtain ⟨stern, hstern⟩ := exists_overridden (hlevel "stern") c.stern
  obtain ⟨gentle, hgentle⟩ := exists_overridden (hlevel "gentle") c.gentle
  exact ⟨⟨enabled, severity, useProfile, policies, path, executable, brutal, cruel, harsh, stern,
    gentle⟩, henabled, hseverity, huseProfile, hpolicies, hpath, hexecutable, hbrutal, hcruel,
    hharsh, hstern, hgentle⟩

/-- Settings are merged into a configuration according to what stands in the one section that is
meant.  Null changes nothing, and no other value but an object can be merged.  An object can be
merged exactly if it has no fault, and gives the one configuration that has each field overridden by
its key. -/
theorem merge_overrides (c : Config) (settings : Json) :
    ∃ v, (∀ v', IsSection settings v' ↔ v' = v) ∧
      (v = .null → c.merge settings = .ok c) ∧
      (v ≠ .null → (∀ ms, v ≠ .object ms) → c.merge settings = .error (.notAnObject v)) ∧
      ∀ ms, v = .object ms →
        (IsFault ms → ∃ e, c.merge settings = .error (.badSetting e)) ∧
        (¬ IsFault ms →
          ∃ c', c.merge settings = .ok c' ∧ ∀ c'', Overrides c ms c'' ↔ c'' = c') := by
  refine ⟨settingsSection settings, fun v' => isSection_iff, fun hnull => ?_,
    fun hnull hobject => ?_, fun ms hms => ⟨fun hfault => ?_, fun hfault => ?_⟩⟩
  · rw [merge, hnull]
  · rw [merge]
    split
    case h_1 hv => exact absurd hv hnull
    case h_2 ms hv => exact absurd hv (hobject ms)
    case h_3 => rfl
  · rw [merge_of_object hms]
    cases hresult : c.override ms with
    | ok c' => exact absurd hfault (override_eq_ok_iff.1 hresult).not_isFault
    | error e => exact ⟨e, rfl⟩
  · obtain ⟨c', hc'⟩ := exists_overrides hfault c
    have hresult := override_eq_ok_iff.2 hc'
    refine ⟨c', by rw [merge_of_object hms, hresult]; rfl, fun c'' => ?_⟩
    rw [← override_eq_ok_iff, hresult, Except.ok.injEq, eq_comm]

/-- A level that is no text, a score with a blank in front, and a key of no field. -/
def mixedMembers : Json.Members :=
  [("gentle", .bool true), ("severity", .string " 2"), ("verbose", .null)]

/-- These members change two fields of the standard configuration, also where they are nested. -/
theorem merge_overrides_mixed :
    let settings := .object [("perl-toolbox", .object [("lint", .object mixedMembers)])]
    IsSection settings (.object mixedMembers) ∧ ¬ IsFault mixedMembers ∧
    standard.merge settings = .ok { standard with severity := .cruel, gentle := "" } := by
  have hsection : IsSection (.object [("perl-toolbox", .object [("lint", .object mixedMembers)])])
      (.object mixedMembers) := .nested rfl rfl rfl rfl
  have hfields : Overrides standard mixedMembers
      { standard with severity := .cruel, gentle := "" } := by
    refine ⟨.kept rfl, .set rfl (.tier ?_), .kept rfl, .kept rfl, .kept rfl, .kept rfl, .kept rfl,
      .kept rfl, .kept rfl, .kept rfl, .set rfl (.other nofun)⟩
    decide +kernel
  have hfault := hfields.not_isFault
  obtain ⟨v, hv, -, -, hobject⟩ := merge_overrides standard
    (.object [("perl-toolbox", .object [("lint", .object mixedMembers)])])
  obtain ⟨c', hmerge, hc'⟩ := (hobject mixedMembers ((hv _).1 hsection).symm).2 hfault
  exact ⟨hsection, hfault, (hc' _).1 hfields ▸ hmerge⟩

end Config

end PerlLint
