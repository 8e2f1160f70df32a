import PerlLint.Proofs.Config.Merge
import PerlLint.Proofs.Json.Members
import PerlLint.Proofs.Json.RoundTrip

/-!
# Reading a configuration that was written

A configuration is written as an object with a member for each field.  In which order they stand
does not matter, since the reader puts them in order.  `ofText_of_perm` says that the
configuration is read back, whatever blanks and comments are added, and also if commas are put
after the last member and after the last policy.
-/

namespace PerlLint.Config

open Json (Members Token Spread)

/-- The kinds of values that fields have. -/
inductive IsFieldValue : Json → Prop where
  | bool (b : Bool) : IsFieldValue (.bool b)
  | text (s : String) : IsFieldValue (.string s)
  | texts (ss : List String) : IsFieldValue (.array (ss.map .string))

theorem itemNumbers_map_string (ss : List String) :
    Json.itemNumbers (ss.map .string) = [] := by
  refine List.eq_nil_iff_forall_not_mem.2 fun n hn => ?_
  obtain ⟨x, hx, hn⟩ := Json.mem_itemNumbers_iff.1 hn
  obtain ⟨s, -, rfl⟩ := List.mem_map.1 hx
  cases hn

theorem normalItems_map_string (ss : List String) :
    Json.normalItems (ss.map .string) = ss.map .string := by
  refine Json.normalItems_eq fun x hx => ?_
  obtain ⟨s, -, rfl⟩ := List.mem_map.1 hx
  rfl

theorem IsFieldValue.numbers_eq {v : Json} (h : IsFieldValue v) : v.numbers = [] := by
  cases h with
  | bool b | text s => rfl
  | texts ss => exact itemNumbers_map_string ss

theorem IsFieldValue.normal_eq {v : Json} (h : IsFieldValue v) : v.normal = v := by
  cases h with
  | bool b | text s => rfl
  | texts ss => rw [Json.normal, normalItems_map_string]

variable {c : Config} {ms : Members}

theorem isFieldValue_toMembers (c : Config) : ∀ m ∈ c.toMembers, IsFieldValue m.2 := by
  intro m hm
  simp only [toMembers, List.mem_cons, List.not_mem_nil, or_false] at hm
  obtain rfl | rfl | rfl | rfl | rfl | rfl | rfl | rfl | rfl | rfl | rfl := hm
  case inr.inr.inr.inl => exact .texts _
  all_goals constructor

theorem memberNumbers_eq_nil (h : ∀ m ∈ ms, IsFieldValue m.2) : Json.memberNumbers ms = [] := by
  refine List.eq_nil_iff_forall_not_mem.2 fun n hn => ?_
  obtain ⟨m, hm, hn⟩ := Json.mem_memberNumbers_iff.1 hn
  rw [(h m hm).numbers_eq] at hn
  cases hn

theorem sorted_toMembers (c : Config) : c.toMembers.Sorted := by
  have hkeys : (c.toMembers.map Prod.fst).Pairwise (· < ·) := by
    show ["brutal", "cruel", "enabled", "excludedPolicies", "executable", "gentle", "harsh",
      "path", "severity", "stern", "useProfile"].Pairwise (· < ·)
    decide +kernel
  exact List.pairwise_map.1 hkeys

/-- A field that is among the members has the value of its member. -/
theorem field_eq {α : Type} {key : String} {v : Json} {a : α} (standard : α)
    {readValue : Json → Except SettingError α} (hkey : ms.get? key = some v)
    (hvalue : readValue v = .ok a) : Setting.field ms key standard readValue = .ok a := by
  rw [Setting.field, hkey]
  exact hvalue

/-- The members of a configuration override every field. -/
theorem override_toMembers (c c' : Config) : c.override c'.toMembers = .ok c' := by
  unfold override
  dsimp only
  rw [field_eq (a := c'.brutal) _ rfl rfl, field_eq (a := c'.cruel) _ rfl rfl,
    field_eq (a := c'.enabled) _ rfl rfl,
    field_eq _ rfl (Setting.readItems_map_string c'.excludedPolicies),
    field_eq (a := c'.executable) _ rfl rfl, field_eq (a := c'.gentle) _ rfl rfl,
    field_eq (a := c'.harsh) _ rfl rfl, field_eq (a := c'.path) _ rfl rfl,
    field_eq _ rfl (Setting.readTier_name c'.severity), field_eq (a := c'.stern) _ rfl rfl,
    field_eq (a := c'.useProfile) _ rfl rfl]
  rfl

/-- A configuration has none of the keys under which editors send settings. -/
theorem settingsSection_toJson (c : Config) : settingsSection c.toJson = .object c.toMembers := rfl

/-- Written members in any order are read as the members of the configuration. -/
theorem normal_of_perm (h : ms.Perm c.toMembers) : (Json.object ms).normal = c.toJson := by
  have hvalues : ∀ m ∈ ms, IsFieldValue m.2 := fun m hm =>
    isFieldValue_toMembers c m (h.mem_iff.1 hm)
  rw [Json.normal, Json.normalMembers_eq fun m hm => (hvalues m hm).normal_eq, Json.ofMembers,
    Members.ofList_of_perm h (sorted_toMembers c), toJson]

/-- The members of a configuration in the order of its fields. -/
def fieldMembers (c : Config) : Members :=
  [("enabled", .bool c.enabled), ("severity", .string c.severity.name),
    ("useProfile", .bool c.useProfile),
    ("excludedPolicies", .array (c.excludedPolicies.map .string)), ("path", .string c.path),
    ("executable", .string c.executable), ("brutal", .string c.brutal),
    ("cruel", .string c.cruel), ("harsh", .string c.harsh), ("stern", .string c.stern),
    ("gentle", .string c.gentle)]

theorem fieldMembers_perm (c : Config) : c.fieldMembers.Perm c.toMembers := by
  -- Both lists have a member for each key, so it is enough to compare the keys.
  have hkeys : (["enabled", "severity", "useProfile", "excludedPolicies", "path", "executable",
      "brutal", "cruel", "harsh", "stern", "gentle"] : List String).Perm
      ["brutal", "cruel", "enabled", "excludedPolicies", "executable", "gentle", "harsh", "path",
        "severity", "stern", "useProfile"] := by
    decide +kernel
  exact hkeys.map fun key => (key, (c.toMembers.get? key).getD .null)

/-- Members in any order are read back from what is written for them. -/
theorem ofText_of_perm (h : ms.Perm c.toMembers) {trailing : Json → Bool} {text : List Char}
    (htext : Spread ((Json.object ms).tokens trailing) text) : ofText text = .ok c := by
  have hvalues : ∀ m ∈ ms, IsFieldValue m.2 := fun m hm =>
    isFieldValue_toMembers c m (h.mem_iff.1 hm)
  have hnumbers : (Json.object ms).numbers = [] := memberNumbers_eq_nil hvalues
  have hread : Json.read text = .ok c.toJson := by
    rw [Json.read_spread (by rw [hnumbers]; exact nofun) htext, normal_of_perm h]
  rw [ofText, hread]
  dsimp only
  rw [ofSettings, merge_of_object (settingsSection_toJson c), override_toMembers]
  rfl

/-- A configuration is read back from its compact text: also if blanks and comments are put
around the tokens, and if a comma is put after the last member or after the last policy. -/
theorem ofText_written (c : Config) :
    (Json.object c.fieldMembers).compact
      = ((Json.object c.fieldMembers).tokens fun _ => false).flatMap Token.spelling ∧
    ∀ trailing text, Spread ((Json.object c.fieldMembers).tokens trailing) text →
      ofText text = .ok c :=
  ⟨Json.compact_eq _, fun _ _ htext => ofText_of_perm (fieldMembers_perm c) htext⟩

/-- A configuration with a quote, a line feed and a control character in its texts. -/
def unusual : Config :=
  { standard with path := "a \"b\"\n", executable := "\u0001", excludedPolicies := ["x", ""] }

/-- It is read back from a text with comments in front and with commas after the last member and
after the last policy. -/
theorem ofText_written_unusual :
    ofText ("// one\n/* two */".toList ++
      ((Json.object unusual.fieldMembers).tokens fun _ => true).flatMap Token.spelling)
      = .ok unusual := by
  have hgap : Json.Gap "// one\n/* two */".toList := by
    have hline : '\n' ∉ [' ', 'o', 'n', 'e'] := by decide
    have hblock : ¬ ['*', '/'] <:+: [' ', 't', 'w', 'o', ' '] := by decide
    exact .line hline (.block hblock .nil)
  exact (ofText_written unusual).2 (fun _ => true) _ ((Json.spread_flatMap _).of_gap hgap)

end PerlLint.Config
