import Mathlib.Data.List.Basic
import Mathlib.Data.List.Lattice
import PerlLint.Proofs.Config.Fields
import PerlLint.Proofs.Json.Members

/-!
# Settings on top of settings

Settings that are merged into a configuration are read, and before the next settings are merged
they are written again: a tier by its name, and a level that was no text as the empty text.  What
comes of them does not depend on that.  Merging two objects one after the other is merging one that
has the members of both, those of the second one first (`merge_layered`).

A field that the second object sets does not depend on what it was.  A field that it does not set
is what the first object made of it (`Setting.field_append`).
-/

namespace PerlLint

/-! ## Members of two objects -/

namespace Json.Members

variable {ms a b : Members} {key : String}

theorem get?_eq_none_iff : ms.get? key = none ↔ key ∉ ms.map Prod.fst := by
  induction ms with
  | nil => simp [get?]
  | cons m ms ih =>
      rw [get?, List.map_cons, List.mem_cons, not_or, ← ih]
      split
      case isTrue h => simp [h]
      case isFalse h => simp [Ne.symm h]

theorem get?_eq_some_iff {v : Json} (h : (ms.map Prod.fst).Nodup) :
    ms.get? key = some v ↔ (key, v) ∈ ms := by
  induction ms with
  | nil => simp [get?]
  | cons m ms ih =>
      obtain ⟨k, w⟩ := m
      obtain ⟨hfirst, hrest⟩ := List.nodup_cons.1 h
      rw [get?, List.mem_cons]
      split
      case isTrue hk =>
        subst hk
        have hnot : (k, v) ∉ ms := fun hm => hfirst (List.mem_map.2 ⟨_, hm, rfl⟩)
        simp [hnot, eq_comm]
      case isFalse hk => simp [ih hrest, Ne.symm hk]

theorem last?_eq_none_iff : ms.last? key = none ↔ key ∉ ms.map Prod.fst := by
  rw [last?, get?_eq_none_iff, List.map_reverse, List.mem_reverse]

theorem last?_append (a b : Members) (key : String) :
    (a ++ b).last? key = (b.last? key).or (a.last? key) := by
  rw [last?, List.reverse_append, get?_append]
  rfl

/-- Where no key comes twice its first value is its last. -/
theorem Sorted.last?_eq (h : ms.Sorted) (key : String) : ms.last? key = ms.get? key := by
  have hreverse : (ms.reverse.map Prod.fst).Nodup := by
    rw [List.map_reverse]
    exact List.nodup_reverse.2 h.nodup
  ext v
  rw [last?, get?_eq_some_iff hreverse, get?_eq_some_iff h.nodup, List.mem_reverse]

theorem last?_ofList (ms : Members) (key : String) : (ofList ms).last? key = ms.last? key := by
  rw [(sorted_ofList ms).last?_eq, ofList, get?_overlay]
  exact Option.or_none

end Json.Members

open Json (Members)

/-! ## One field -/

/-- What one object makes of a field goes on to the next one. -/
theorem Setting.field_append {α : Type} {a : Members} {key : String} {old new : α}
    {readValue : Json → Except SettingError α} (b : Members)
    (h : field a.reverse key old readValue = .ok new) :
    field b.reverse key new readValue = field (a ++ b).reverse key old readValue := by
  rw [field, field, List.reverse_append, Members.get?_append]
  cases Members.get? b.reverse key with
  | some v => rfl
  | none => exact h.symm

/-! ## All fields -/

namespace Config

variable {c c' : Config} {a b : Members}

/-- Overriding looks only at the last value of each key. -/
theorem override_congr (h : ∀ key, a.last? key = b.last? key) (c : Config) :
    c.override a = c.override b := by
  unfold Json.Members.last? at h
  simp only [override, Setting.field, h]

/-- Overriding with one object after the other is overriding with the members of both. -/
theorem override_append (h : c.override a = .ok c') (b : Members) :
    c'.override b = c.override (a ++ b) := by
  have hfields := override_eq_ok_iff.1 h
  unfold override
  dsimp only
  rw [Setting.field_append b ((field_eq_ok Setting.readLevel_eq_ok).2 hfields.brutal),
    Setting.field_append b ((field_eq_ok Setting.readLevel_eq_ok).2 hfields.cruel),
    Setting.field_append b ((field_eq_ok Setting.readBool_eq_ok).2 hfields.enabled),
    Setting.field_append b ((field_eq_ok Setting.readTexts_eq_ok).2 hfields.excludedPolicies),
    Setting.field_append b ((field_eq_ok Setting.readText_eq_ok).2 hfields.executable),
    Setting.field_append b ((field_eq_ok Setting.readLevel_eq_ok).2 hfields.gentle),
    Setting.field_append b ((field_eq_ok Setting.readLevel_eq_ok).2 hfields.harsh),
    Setting.field_append b ((field_eq_ok Setting.readText_eq_ok).2 hfields.path),
    Setting.field_append b ((field_eq_ok Setting.readTier_eq_ok).2 hfields.severity),
    Setting.field_append b ((field_eq_ok Setting.readLevel_eq_ok).2 hfields.stern),
    Setting.field_append b ((field_eq_ok Setting.readBool_eq_ok).2 hfields.useProfile)]

/-! ## Objects that are settings themselves -/

/-- The keys under which editors send settings. -/
def sectionKeys : List String := ["criticlint", "perl-toolbox.lint", "perl-toolbox"]

/-- The object has none of the keys under which editors send settings. -/
def Unsectioned (ms : Members) : Prop := ∀ key ∈ sectionKeys, key ∉ ms.map Prod.fst

instance (ms : Members) : Decidable (Unsectioned ms) :=
  inferInstanceAs (Decidable (∀ key ∈ sectionKeys, key ∉ ms.map Prod.fst))

theorem Unsectioned.settingsSection_eq (h : Unsectioned a) :
    settingsSection (.object a) = .object a := by
  have hnone : ∀ key ∈ sectionKeys, (Json.object a).get? key = none :=
    fun key hkey => Members.get?_eq_none_iff.2 (h key hkey)
  have hnested : ∀ toolbox, (Json.object a).get? "perl-toolbox" = some toolbox →
      toolbox.get? "lint" = none := by
    intro toolbox htoolbox
    rw [hnone _ (by simp [sectionKeys])] at htoolbox
    cases htoolbox
  have hwhole : IsSection (.object a) (.object a) :=
    .whole (hnone _ (by simp [sectionKeys])) (hnone _ (by simp [sectionKeys])) hnested
  exact (isSection_iff.1 hwhole).symm

theorem Unsectioned.ofList_append (ha : Unsectioned a) (hb : Unsectioned b) :
    Unsectioned (Members.ofList (a ++ b)) := by
  intro key hkey
  rw [← Members.last?_eq_none_iff, Members.last?_ofList, Members.last?_append,
    Members.last?_eq_none_iff.2 (ha key hkey), Members.last?_eq_none_iff.2 (hb key hkey)]
  rfl

theorem Unsectioned.merge_eq (h : Unsectioned a) (c : Config) :
    c.merge (.object a) = (c.override a).mapError ConfigError.badSetting :=
  merge_of_object h.settingsSection_eq

theorem Unsectioned.merge_eq_ok (h : Unsectioned a) :
    c.merge (.object a) = .ok c' ↔ c.override a = .ok c' := by
  rw [h.merge_eq]
  cases c.override a with
  | ok c'' => simp [Except.mapError]
  | error e => exact iff_of_false nofun nofun

/-- Objects with the same last values are merged in the same way. -/
theorem merge_congr (ha : Unsectioned a) (hb : Unsectioned b)
    (h : ∀ key, a.last? key = b.last? key) (c : Config) :
    c.merge (.object a) = c.merge (.object b) := by
  rw [ha.merge_eq, hb.merge_eq, override_congr h]

theorem merge_append (ha : Unsectioned a) (hb : Unsectioned b)
    (h : c.merge (.object a) = .ok c') :
    c'.merge (.object b) = c.merge (.object (Members.ofList (a ++ b))) := by
  rw [hb.merge_eq, override_append (ha.merge_eq_ok.1 h) b, (ha.ofList_append hb).merge_eq,
    override_congr (Members.last?_ofList (a ++ b))]

/-- Settings that can be merged into one configuration can be merged into any. -/
theorem exists_merge {settings : Json} (h : c.merge settings = .ok c') (c₁ : Config) :
    ∃ c₂, c₁.merge settings = .ok c₂ := by
  cases hresult : c₁.merge settings with
  | ok c₂ => exact ⟨c₂, rfl⟩
  | error e =>
      rw [(sameErrors_merge c₁ c settings e).1 hresult] at h
      cases h

/-- Merging two objects one after the other is merging the object that has the members of both,
where those of the second one count first.  It goes wrong in the same way, too.  So merging an
object again changes nothing, and two objects that can be merged and have no key in common can be
merged in either order. -/
theorem merge_layered (c : Config) {a b : Members} (ha : Unsectioned a) (hb : Unsectioned b) :
    (∀ key, (Members.ofList (a ++ b)).last? key = (b.last? key).or (a.last? key)) ∧
    (∀ c', c.merge (.object a) = .ok c' →
      c'.merge (.object b) = c.merge (.object (Members.ofList (a ++ b))) ∧
      c'.merge (.object a) = .ok c') ∧
    ((a.map Prod.fst).Disjoint (b.map Prod.fst) → ∀ c₁ c₂, c.merge (.object a) = .ok c₁ →
      c.merge (.object b) = .ok c₂ →
      ∃ c', c₁.merge (.object b) = .ok c' ∧ c₂.merge (.object a) = .ok c') := by
  have hlast : ∀ a b : Members, ∀ key,
      (Members.ofList (a ++ b)).last? key = (b.last? key).or (a.last? key) := fun a b key => by
    rw [Members.last?_ofList, Members.last?_append]
  refine ⟨hlast a b, fun c' h => ⟨merge_append ha hb h, ?_⟩, fun hdisjoint c₁ c₂ h₁ h₂ => ?_⟩
  · have hself : ∀ key, (Members.ofList (a ++ a)).last? key = a.last? key := fun key => by
      rw [hlast, Option.or_self]
    rw [merge_append ha ha h, merge_congr (ha.ofList_append ha) ha hself, h]
  · have hswap : ∀ key,
        (Members.ofList (a ++ b)).last? key = (Members.ofList (b ++ a)).last? key := by
      intro key
      rw [hlast, hlast]
      by_cases hkey : key ∈ a.map Prod.fst
      · rw [Members.last?_eq_none_iff.2 (hdisjoint hkey), Option.none_or, Option.or_none]
      · rw [Members.last?_eq_none_iff.2 hkey, Option.none_or, Option.or_none]
    obtain ⟨c', hc'⟩ := exists_merge h₂ c₁
    refine ⟨c', hc', ?_⟩
    rw [merge_append hb ha h₂, ← hc', merge_append ha hb h₁,
      merge_congr (ha.ofList_append hb) (hb.ofList_append ha) hswap]

/-- A score in place of a name, and a level that is no text. -/
def scoreMembers : Members := [("gentle", .null), ("severity", .string "+3")]

/-- A level for the same tier, and a directory. -/
def hintMembers : Members := [("gentle", .string "hint"), ("path", .string "lib")]

/-- A level for another tier. -/
def sternMembers : Members := [("stern", .string "info")]

/-- The standard configuration with these members. -/
def scored : Config := { standard with severity := .harsh, gentle := "" }

/-- A level that was none is overridden, and the tier that was read from a score is kept.  The level
of another tier may be set before or after. -/
theorem merge_layered_scored :
    Unsectioned scoreMembers ∧ Unsectioned hintMembers ∧ Unsectioned sternMembers ∧
    standard.merge (.object scoreMembers) = .ok scored ∧
    scored.merge (.object hintMembers)
      = standard.merge (.object (Members.ofList (scoreMembers ++ hintMembers))) ∧
    scored.merge (.object scoreMembers) = .ok scored ∧
    (scoreMembers.map Prod.fst).Disjoint (sternMembers.map Prod.fst) ∧
    standard.merge (.object sternMembers) = .ok { standard with stern := "info" } ∧
    ∃ c', scored.merge (.object sternMembers) = .ok c' ∧
      { standard with stern := "info" }.merge (.object scoreMembers) = .ok c' := by
  have hscore : Unsectioned scoreMembers := by decide
  have hhint : Unsectioned hintMembers := by decide
  have hstern : Unsectioned sternMembers := by decide
  have htier : Tier.ofString? "+3" = some .harsh := by decide +kernel
  have hscored : standard.merge (.object scoreMembers) = .ok scored :=
    hscore.merge_eq_ok.2 (override_eq_ok_iff.2 ⟨.kept rfl, .set rfl (.tier htier), .kept rfl,
      .kept rfl, .kept rfl, .kept rfl, .kept rfl, .kept rfl, .kept rfl, .kept rfl,
      .set rfl (.other nofun)⟩)
  have hinfo : standard.merge (.object sternMembers) = .ok { standard with stern := "info" } := rfl
  have hdisjoint : (scoreMembers.map Prod.fst).Disjoint (sternMembers.map Prod.fst) := by
    simp [scoreMembers, sternMembers]
  obtain ⟨-, hlayers, -⟩ := merge_layered standard hscore hhint
  obtain ⟨-, -, hswap⟩ := merge_layered standard hscore hstern
  exact ⟨hscore, hhint, hstern, hscored, (hlayers scored hscored).1, (hlayers scored hscored).2,
    hdisjoint, hinfo, hswap hdisjoint _ _ hscored hinfo⟩

end Config

end PerlLint
