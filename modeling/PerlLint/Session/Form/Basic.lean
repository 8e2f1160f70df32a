import PerlLint.Config.Settings
import PerlLint.Uri.Parser

/-!
# Forms of parameters

What the client sends is JSON, and each kind of message has a form that its parameters
must have.  `Form.read` checks a value and brings it into standard form, or says what is
wrong with it.

A *record* is an object.  Members that it does not list may be there and do not count.
Its members are read in the order of their keys, and the first that is wrong is reported;
after them come the members that are missing.  A record may also be written as an array,
with its values in the order in which the form lists them; in standard form it is an
object again.

A record may have *parts*, which are records that share its object.  They are read after
the record's own members.  A record with parts has no order, so it is an object only.

Of a choice between several forms nothing is reported but that none fits.
-/

namespace PerlLint.Session

/-! ## Errors -/

/-- What is wrong with a value. -/
inductive FormError where
  /-- A value of another kind than wanted. -/
  | wrongKind (got : Json) (wanted : String)
  /-- An integer that is too great or too small. -/
  | outOfRange (n : Int) (wanted : String)
  /-- A text that is no URI. -/
  | badUri (text : String) (why : Uri.ParseError)
  /-- A name that is none of those wanted. -/
  | unknownName (name : String) (names : List String)
  /-- A name written as an object with no key or with several. -/
  | notOneKey
  /-- A value that has none of the forms to choose from. -/
  | noChoice (title : String)
  /-- A member that is missing. -/
  | missing (key : String)
  /-- An array of the wrong length. -/
  | wrongLength (n : Nat) (wanted : String)
deriving DecidableEq

/-- Names to choose from, as a message shows them. -/
def namesPhrase (names : List String) : String :=
  let quoted := names.map fun s => "`" ++ s ++ "`"
  match quoted with
  | [a, b] => a ++ " or " ++ b
  | [a] => a
  | _ => "one of " ++ ", ".intercalate quoted

/-- A number of elements, as a message shows it. -/
def elementsPhrase (n : Nat) : String :=
  toString n ++ (if n = 1 then " element" else " elements")

/-- The wording of an error. -/
def FormError.message : FormError → String
  | wrongKind got wanted => "invalid type: " ++ got.kindPhrase ++ ", expected " ++ wanted
  | outOfRange n wanted => "invalid value: integer `" ++ toString n ++ "`, expected " ++ wanted
  | badUri text why => why.message ++ ": " ++ Text.Quoted.quote text
  | unknownName name names => "unknown variant `" ++ name ++ "`, expected " ++ namesPhrase names
  | notOneKey => "invalid value: map, expected map with a single key"
  | noChoice title => "data did not match any variant of untagged enum " ++ title
  | missing key => "missing field `" ++ key ++ "`"
  | wrongLength n wanted => "invalid length " ++ toString n ++ ", expected " ++ wanted

/-! ## Forms -/

/-- Whether a member may be missing. -/
inductive Presence where
  /-- It may not. -/
  | needed
  /-- It may be missing in an object, but not in an array. -/
  | optional
  /-- It may be missing, also at the end of an array. -/
  | preset
deriving Repr, DecidableEq

/-- The form of a value. -/
inductive Form where
  /-- Any value. -/
  | any
  /-- A truth value. -/
  | bool
  /-- A text. -/
  | text
  /-- A signed number of 32 bits. -/
  | int32
  /-- An unsigned number of 32 bits. -/
  | nat32
  /-- A signed number of 64 bits. -/
  | int64
  /-- A number. -/
  | real
  /-- A URI. -/
  | uri
  /-- One of several names, as a text or as the only key of an object whose value is
  null. -/
  | name (names : List String)
  /-- Null, or a value of a form. -/
  | orNull (f : Form)
  /-- Null, a truth value, or a value of a form. -/
  | orBool (f : Form)
  /-- A list. -/
  | list (item : Form)
  /-- A list of two. -/
  | pair (item : Form)
  /-- An object with any keys. -/
  | table (value : Form)
  /-- An object whose keys are URIs. -/
  | uriTable (value : Form)
  /-- One of several forms. -/
  | choice (title : String) (forms : List Form)
  /-- An object of the form that one of its members names, or an array of which the first
  item names it. -/
  | tagged (key : String) (forms : List (String × Form))
  /-- A record with members of its own, and parts. -/
  | record (title : String) (fields : List (String × Presence × Form)) (parts : List Form)

namespace Form

/-! ## Reading -/

/-- Reads an integer between two bounds. -/
def readInteger (lo hi : Int) (wanted : String) (v : Json) : Except FormError Json :=
  match v with
  | .number (.int n) => if lo ≤ n ∧ n ≤ hi then .ok v else .error (.outOfRange n wanted)
  | _ => .error (.wrongKind v wanted)

/-- Reads a URI. -/
def readUri (s : String) : Except FormError Json :=
  match Uri.parse s with
  | .ok _ => .ok (.string s)
  | .error e => .error (.badUri s e)

/-- Reads a name. -/
def readName (names : List String) (v : Json) : Except FormError Json :=
  let check (s : String) : Except FormError Json :=
    if names.contains s then .ok (.string s) else .error (.unknownName s names)
  match v with
  | .string s => check s
  | .object [(s, value)] => do
      let name ← check s
      if value = .null then return name else throw (.wrongKind value "unit")
  | .object _ => .error .notOneKey
  | _ => .error (.wrongKind v "string or map")

/-- The first member of a record that is missing. -/
def firstMissing? (ms : Json.Members) (fields : List (String × Presence × Form)) :
    Option String :=
  (fields.find? fun (key, presence, _) => presence == .needed && (ms.get? key).isNone).map
    Prod.fst

/-- Whether a record lists a key. -/
def lists (fields : List (String × Presence × Form)) (key : String) : Bool :=
  fields.any fun f => f.1 == key

mutual

/-- Reads a value of a form.  `inner` says that it belongs to a part of a record. -/
def readAt (inner : Bool) : Form → Json → Except FormError Json
  | .any, v => .ok v
  | .bool, v =>
      match v with
      | .bool _ => .ok v
      | _ => .error (.wrongKind v "a boolean")
  | .text, v =>
      match v with
      | .string _ => .ok v
      | _ => .error (.wrongKind v "a string")
  | .int32, v => readInteger (-2147483648) 2147483647 "i32" v
  | .nat32, v => readInteger 0 4294967295 "u32" v
  | .int64, v => readInteger (-9223372036854775808) 9223372036854775807 "i64" v
  | .real, v =>
      match v with
      | .number _ => .ok v
      | _ => .error (.wrongKind v "f32")
  | .uri, v =>
      match v with
      | .string s => readUri s
      | _ => .error (.wrongKind v "a string representing an URL")
  | .name names, v => readName names v
  | .orNull f, v => if v = .null then .ok v else readAt inner f v
  | .orBool f, v =>
      match v with
      | .null | .bool _ => .ok v
      | _ => readAt false f v
  | .list item, v =>
      match v with
      | .array vs => (vs.mapM fun v => readAt inner item v).map .array
      | _ => .error (.wrongKind v "a sequence")
  | .pair item, v =>
      match v with
      | .array [a, b] => do return .array [← readAt inner item a, ← readAt inner item b]
      | .array vs => .error (.wrongLength vs.length "an array of length 2")
      | _ => .error (.wrongKind v "an array of length 2")
  | .table f, v =>
      match v with
      | .object ms => (ms.mapM fun m => (readAt inner f m.2).map fun v => (m.1, v)).map .object
      | _ => .error (.wrongKind v "a map")
  | .uriTable f, v =>
      match v with
      | .object ms => do
          let ms ← ms.mapM fun (m : String × Json) => do
            let _ ← readUri m.1
            return (m.1, ← readAt inner f m.2)
          return .object ms
      | _ => .error (.wrongKind v "map")
  | .choice title forms, v =>
      match readFirst? forms v with
      | some v => .ok v
      | none => .error (.noChoice title)
  | .tagged key forms, v =>
      match v with
      | .array (.string tag :: vs) => readTagged tag forms (.array vs)
      | .object _ =>
          match v.get? key with
          | some (.string tag) => readTagged tag forms v
          | some tag => .error (.wrongKind tag "variant identifier")
          | none => .error (.missing key)
      | _ => .error (.wrongKind v "a map")
  | .record title fields parts, v =>
      match v with
      | .object ms => do
          let own := ms.filter fun m => lists fields m.1
          let rest := ms.filter fun m => !lists fields m.1
          let own ← own.mapM fun m => readMember inner fields m.1 m.2
          match firstMissing? ms fields with
          | some key => throw (.missing key)
          | none => return .ofMembers (own ++ (← readParts parts rest))
      | .array vs =>
          if parts.isEmpty then
            (readRow inner title fields.length vs.length 0 fields vs).map .ofMembers
          else .error (.wrongKind v ("struct " ++ title))
      | _ => .error (.wrongKind v ("struct " ++ title))
termination_by structural f => f

/-- Reads a value of the first form that fits. -/
def readFirst? : List Form → Json → Option Json
  | [], _ => none
  | f :: fs, v => (readAt true f v).toOption.or (readFirst? fs v)
termination_by structural fs => fs

/-- Reads a value of the form that belongs to a tag. -/
def readTagged (tag : String) : List (String × Form) → Json → Except FormError Json
  | [], _ => .error (.unknownName tag [])
  | (k, f) :: fs, v => if k = tag then readAt true f v else readTagged tag fs v
termination_by structural fs => fs

/-- Reads a member of a record. -/
def readMember (inner : Bool) : List (String × Presence × Form) → String → Json →
    Except FormError (String × Json)
  | [], key, v => .ok (key, v)
  | (k, _, f) :: fs, key, v =>
      if k = key then (readAt inner f v).map fun v => (key, v) else readMember inner fs key v
termination_by structural fs => fs

/-- Reads the values of a record that is written as an array.  `size` is the number of the
record's members, `length` that of the values, and `place` how many have been read. -/
def readRow (inner : Bool) (title : String) (size length place : Nat) :
    List (String × Presence × Form) → List Json → Except FormError (List (String × Json))
  | [], [] => .ok []
  | [], _ :: _ =>
      .error (.wrongLength length
        (if inner then elementsPhrase size ++ " in sequence" else "fewer elements in array"))
  | (_, presence, _) :: fs, [] =>
      if presence = .preset then readRow inner title size length (place + 1) fs []
      else .error (.wrongLength place ("struct " ++ title ++ " with " ++ elementsPhrase size))
  | (key, _, f) :: fs, v :: vs => do
      let v ← readAt inner f v
      let ms ← readRow inner title size length (place + 1) fs vs
      return (key, v) :: ms
termination_by structural fs => fs

/-- Reads the parts of a record from the members that are not its own. -/
def readParts : List Form → Json.Members → Except FormError (List (String × Json))
  | [], _ => .ok []
  | f :: fs, ms => do
      let part ← match f with
        | .table f => ms.mapM fun m => (readAt true f m.2).map fun v => (m.1, v)
        | .record _ fields _ => do
            let own ← (ms.filter fun m => lists fields m.1).mapM fun m =>
              readMember true fields m.1 m.2
            match firstMissing? ms fields with
            | some key => throw (.missing key)
            | none => pure own
        | _ => pure []
      return part ++ (← readParts fs ms)
termination_by structural fs => fs

end

/-- The standard form of a value. -/
def read (f : Form) (v : Json) : Except FormError Json := readAt false f v

/-! ## Records -/

/-- A member that must be there. -/
def needed (key : String) (f : Form) : String × Presence × Form := (key, .needed, f)

/-- A member that may be missing or null. -/
def optional (key : String) (f : Form) : String × Presence × Form := (key, .optional, .orNull f)

/-- A member that may be missing or null, also at the end of an array. -/
def preset (key : String) (f : Form) : String × Presence × Form := (key, .preset, .orNull f)

/-- A record without parts. -/
def plain (title : String) (fields : List (String × Presence × Form)) : Form :=
  .record title fields []

/-- A record without order, so that it is an object only. -/
def unordered (title : String) (fields : List (String × Presence × Form)) : Form :=
  .record title fields [plain title []]

end Form

end PerlLint.Session
