import PerlLint.Decimal.Double

/-!
# JSON values

A number is an integer that fits 64 bits, signed or unsigned, or a double.  The
two are different values even where they are equal numbers.

The members of an object are a list of pairs.  Every object that the library
makes has its keys in increasing order and each key once; `Members.insert` keeps
it so, and `Members.ofList` brings any list of pairs into this form, the last
value of a key winning.  So two objects with the same members are the same
value, and the order in which members are written is the order of their keys.

`Members.overlay` sets every member of one object in another.
-/

namespace PerlLint

namespace Json

/-- A number of JSON. -/
inductive Number where
  /-- An integer, from -2^63 to 2^64 - 1. -/
  | int (value : Int)
  /-- A double. -/
  | double (value : Decimal.Double)
deriving Repr, DecidableEq

end Json

/-- A JSON value. -/
inductive Json where
  | null
  | bool (value : Bool)
  | number (value : Json.Number)
  | string (value : String)
  | array (items : List Json)
  | object (members : List (String × Json))
deriving Inhabited

namespace Json

/-! ## Equality -/

mutual

/-- Equality of values is decidable. -/
def decEq : (a b : Json) → Decidable (a = b)
  | .null, b => by
      cases b
      case null => exact isTrue rfl
      all_goals exact isFalse nofun
  | .bool x, b => by
      cases b
      case bool y => exact decidable_of_iff (x = y) (by simp)
      all_goals exact isFalse nofun
  | .number x, b => by
      cases b
      case number y => exact decidable_of_iff (x = y) (by simp)
      all_goals exact isFalse nofun
  | .string x, b => by
      cases b
      case string y => exact decidable_of_iff (x = y) (by simp)
      all_goals exact isFalse nofun
  | .array xs, .array ys =>
      match decEqItems xs ys with
      | isTrue h => isTrue (h ▸ rfl)
      | isFalse h => isFalse fun e => h (array.inj e)
  | .array _, .null | .array _, .bool _ | .array _, .number _ | .array _, .string _
  | .array _, .object _ => isFalse nofun
  | .object xs, .object ys =>
      match decEqMembers xs ys with
      | isTrue h => isTrue (h ▸ rfl)
      | isFalse h => isFalse fun e => h (object.inj e)
  | .object _, .null | .object _, .bool _ | .object _, .number _ | .object _, .string _
  | .object _, .array _ => isFalse nofun
termination_by structural a => a

/-- Equality of lists of values is decidable. -/
def decEqItems : (xs ys : List Json) → Decidable (xs = ys)
  | [], [] => isTrue rfl
  | [], _ :: _ | _ :: _, [] => isFalse nofun
  | x :: xs, y :: ys =>
      match decEq x y, decEqItems xs ys with
      | isTrue h, isTrue k => isTrue (by rw [h, k])
      | isFalse h, _ => isFalse fun e => h (List.cons.inj e).1
      | _, isFalse k => isFalse fun e => k (List.cons.inj e).2
termination_by structural xs => xs

/-- Equality of lists of members is decidable. -/
def decEqMembers : (xs ys : List (String × Json)) → Decidable (xs = ys)
  | [], [] => isTrue rfl
  | [], _ :: _ | _ :: _, [] => isFalse nofun
  | (k, x) :: xs, (l, y) :: ys =>
      if hk : k = l then
        match decEq x y, decEqMembers xs ys with
        | isTrue h, isTrue hs => isTrue (by rw [hk, h, hs])
        | isFalse h, _ => isFalse fun e => h (Prod.mk.inj (List.cons.inj e).1).2
        | _, isFalse hs => isFalse fun e => hs (List.cons.inj e).2
      else isFalse fun e => hk (Prod.mk.inj (List.cons.inj e).1).1
termination_by structural xs => xs

end

instance : DecidableEq Json := decEq

/-- The members of an object. -/
abbrev Members := List (String × Json)

namespace Members

/-! ## Members by key -/

/-- The value of a key. -/
def get? : Members → String → Option Json
  | [], _ => none
  | (k, v) :: ms, key => if k = key then some v else get? ms key
termination_by structural ms => ms

/-- Sets a key.  In increasing order of keys, in which members are kept. -/
def insert : Members → String → Json → Members
  | [], key, value => [(key, value)]
  | (k, v) :: ms, key, value =>
      if k = key then (key, value) :: ms
      else if key < k then (key, value) :: (k, v) :: ms
      else (k, v) :: insert ms key value
termination_by structural ms => ms

/-- Sets every member of `top` in `base`, from the first on. -/
def overlay (base top : Members) : Members := top.foldl (fun ms m => ms.insert m.1 m.2) base

/-- The members in increasing order of keys, the last value of each key. -/
def ofList (ms : List (String × Json)) : Members := overlay [] ms

end Members

/-! ## Values -/

/-- The object with these members. -/
def ofMembers (ms : List (String × Json)) : Json := .object (Members.ofList ms)

/-- The value of a key, if the value is an object. -/
def get? : Json → String → Option Json
  | .object ms, key => Members.get? ms key
  | _, _ => none

/-- An integer as a value. -/
def int (n : Int) : Json := .number (.int n)

/-- A natural number as a value. -/
def nat (n : Nat) : Json := .number (.int n)

/-- A value that may be missing; a missing one is null. -/
def orNull : Option Json → Json
  | some v => v
  | none => .null

/-- The natural number that a value is. -/
def toNat? : Json → Option Nat
  | .number (.int (.ofNat n)) => some n
  | _ => none

/-- The text that a value is. -/
def toText? : Json → Option String
  | .string s => some s
  | _ => none

/-- The items of an array. -/
def toItems? : Json → Option (List Json)
  | .array xs => some xs
  | _ => none

end Json

end PerlLint
