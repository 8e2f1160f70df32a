import PerlLint.Config.Basic
import PerlLint.Host.Files
import PerlLint.Json.Reader
import PerlLint.Text.Printable
import PerlLint.Text.Utf8

/-!
# Settings

Settings are a JSON object that overrides a configuration key by key.  A
configuration is written as an object with one member per field (`toMembers`),
the members of the settings are set in it, and the result is read back
(`ofMembers?`).  Keys that name no field are passed over.

Reading takes the fields in the order of their keys and stops at the first value
that is wrong.  A level setting is never wrong: what is no string counts as the
empty string.

An editor may send the settings of all its extensions at once.  `settingsSection`
finds the object that is meant: under `criticlint`, under `perl-toolbox.lint`,
under `lint` inside `perl-toolbox`, or the value itself.  Settings that are null
change nothing.

Settings also stand in files.  A directory may hold a configuration file under one
of two names, and the first one that is a regular file counts.
-/

namespace PerlLint

/-! ## Errors -/

/-- What kind of value a setting has to be. -/
inductive Wanted where
  | boolean
  | string
  | sequence
deriving Repr, DecidableEq

/-- The kind as a message names it. -/
def Wanted.phrase : Wanted → String
  | boolean => "a boolean"
  | string => "a string"
  | sequence => "a sequence"

/-- What is wrong with a setting. -/
inductive SettingError where
  /-- A value of another kind than wanted. -/
  | wrongType (got : Json) (wanted : Wanted)
  /-- A text that names no tier. -/
  | unknownTier (text : String)
deriving DecidableEq

/-- A value as a message about its kind shows it. -/
def Json.kindPhrase : Json → String
  | .null => "null"
  | .bool b => "boolean `" ++ (if b then "true" else "false") ++ "`"
  | .number (.int n) => "integer `" ++ String.ofList (Text.intDigits n) ++ "`"
  | .number (.double x) => "floating point `" ++ String.ofList x.write ++ "`"
  | .string s => "string " ++ Text.Quoted.quote s
  | .array _ => "sequence"
  | .object _ => "map"

/-- The message about a text that names no tier. -/
def unknownTierMessage (text : String) : String :=
  "unknown severity '" ++ String.ofList (Text.trim text.toList)
    ++ "': expected one of brutal, cruel, harsh, stern, gentle or 1-5"

/-- The wording of an error. -/
def SettingError.message : SettingError → String
  | wrongType got wanted =>
      "invalid type: " ++ got.kindPhrase ++ ", expected " ++ wanted.phrase
  | unknownTier text => unknownTierMessage text

/-! ## Reading one value -/

namespace Setting

/-- Reads a truth value. -/
def readBool : Json → Except SettingError Bool
  | .bool b => .ok b
  | v => .error (.wrongType v .boolean)

/-- Reads a text. -/
def readText : Json → Except SettingError String
  | .string s => .ok s
  | v => .error (.wrongType v .string)

/-- Reads the items of a list of texts. -/
def readItems : List Json → Except SettingError (List String)
  | [] => .ok []
  | v :: vs => do
      let s ← readText v
      let ss ← readItems vs
      return s :: ss
termination_by structural vs => vs

/-- Reads a list of texts. -/
def readTexts : Json → Except SettingError (List String)
  | .array vs => readItems vs
  | v => .error (.wrongType v .sequence)

/-- Reads a tier. -/
def readTier (v : Json) : Except SettingError Tier := do
  let s ← readText v
  match Tier.ofString? s with
  | some t => .ok t
  | none => .error (.unknownTier s)

/-- Reads a level setting.  What is no text counts as the empty text. -/
def readLevel : Json → Except SettingError String
  | .string s => .ok s
  | _ => .ok ""

/-- Reads the value of a key, or gives `standard` if there is none. -/
def field {α : Type} (ms : Json.Members) (key : String) (standard : α)
    (readValue : Json → Except SettingError α) : Except SettingError α :=
  match ms.get? key with
  | some v => readValue v
  | none => .ok standard

end Setting

namespace Config

/-! ## Configurations as members -/

/-- A configuration as members, in the order of the keys. -/
def toMembers (c : Config) : Json.Members :=
  [("brutal", .string c.brutal), ("cruel", .string c.cruel), ("enabled", .bool c.enabled),
    ("excludedPolicies", .array (c.excludedPolicies.map .string)),
    ("executable", .string c.executable), ("gentle", .string c.gentle),
    ("harsh", .string c.harsh), ("path", .string c.path), ("severity", .string c.severity.name),
    ("stern", .string c.stern), ("useProfile", .bool c.useProfile)]

/-- A configuration as an object. -/
def toJson (c : Config) : Json := .object c.toMembers

/-- Reads a configuration.  A missing field has its standard value. -/
def ofMembers? (ms : Json.Members) : Except SettingError Config := do
  let brutal ← Setting.field ms "brutal" standard.brutal Setting.readLevel
  let cruel ← Setting.field ms "cruel" standard.cruel Setting.readLevel
  let enabled ← Setting.field ms "enabled" standard.enabled Setting.readBool
  let excludedPolicies ←
    Setting.field ms "excludedPolicies" standard.excludedPolicies Setting.readTexts
  let executable ← Setting.field ms "executable" standard.executable Setting.readText
  let gentle ← Setting.field ms "gentle" standard.gentle Setting.readLevel
  let harsh ← Setting.field ms "harsh" standard.harsh Setting.readLevel
  let path ← Setting.field ms "path" standard.path Setting.readText
  let severity ← Setting.field ms "severity" standard.severity Setting.readTier
  let stern ← Setting.field ms "stern" standard.stern Setting.readLevel
  let useProfile ← Setting.field ms "useProfile" standard.useProfile Setting.readBool
  return { enabled, severity, useProfile, excludedPolicies, path, executable, brutal, cruel,
           harsh, stern, gentle }

end Config

/-! ## Merging settings -/

/-- Why settings cannot be used. -/
inductive ConfigError where
  /-- Settings that are no object. -/
  | notAnObject (settings : Json)
  /-- A setting that is wrong. -/
  | badSetting (e : SettingError)
  /-- A text that is no JSON. -/
  | badText (e : Json.ReadError)
  /-- A file that cannot be read, with the reason. -/
  | unreadable (reason : String)
  /-- A text that names no tier, outside of any settings. -/
  | unknownTier (text : String)
  /-- Anything else, by its wording. -/
  | other (wording : String)
deriving DecidableEq

/-- The wording of an error. -/
def ConfigError.message : ConfigError → String
  | notAnObject settings => "Expected a settings object, got " ++ settings.toCompactString
  | badSetting e => "Invalid config: " ++ e.message
  | badText e => "Invalid JSON: " ++ e.message
  | unreadable reason => "Failed to read config: " ++ reason
  | unknownTier text => unknownTierMessage text
  | other wording => wording

/-- The part of editor settings that is meant for this program. -/
def settingsSection (settings : Json) : Json :=
  match settings.get? "criticlint" with
  | some v => v
  | none =>
      match settings.get? "perl-toolbox.lint" with
      | some v => v
      | none =>
          match (settings.get? "perl-toolbox").bind fun v => v.get? "lint" with
          | some v => v
          | none => settings

namespace Config

/-- The configuration with the keys of settings overriding its own. -/
def merge (c : Config) (settings : Json) : Except ConfigError Config :=
  match settingsSection settings with
  | .null => .ok c
  | .object ms =>
      match ofMembers? (c.toMembers.overlay ms) with
      | .ok c => .ok c
      | .error e => .error (.badSetting e)
  | v => .error (.notAnObject v)

/-- The configuration that settings make of the standard one. -/
def ofSettings (settings : Json) : Except ConfigError Config := standard.merge settings

/-- The configuration that a text of commented JSON stands for. -/
def ofText (text : List Char) : Except ConfigError Config :=
  match Json.read text with
  | .ok settings => ofSettings settings
  | .error e => .error (.badText e)

end Config

/-! ## Configuration files -/

namespace Config

open Host

/-- The names of configuration files, in the order in which they are looked
for. -/
def fileNames : List String := [".criticlint.jsonc", ".criticlint.json"]

/-- The path of the configuration file in a directory, if there is one. -/
def discover? (fs : Files) (here : Location) (dir : String) : Option String :=
  (fileNames.map (joinPath dir)).find? fun path => fs.isFile here path

/-- The configuration in a file. -/
def ofFile (fs : Files) (here : Location) (path : String) : Except ConfigError Config :=
  match fs.read here path with
  | .error fault => .error (.unreadable fault.message)
  | .ok bytes =>
      match Text.Utf8.decode? bytes with
      | some text => ofText text
      | none => .error (.unreadable "stream did not contain valid UTF-8")

end Config

end PerlLint
