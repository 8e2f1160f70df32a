import PerlLint.Json.Token

/-!
# Reading commented JSON

The reader takes the tokens of a text one by one.  Its state says what is due
next and holds the unfinished arrays and objects, innermost first.  One token
makes one step, so reading is a fold over the tokens and needs no recursion on
the depth of the value.

The dialect is forgiving.  Between two items or two members a comma may be
missing, and one may follow the last.  A key is a string, a bare word or a
number as written.  A text without any token stands for an empty object.  Of two
members with the same key the later one counts.

Of two faults the one reached first is reported.  A token that cannot be read is
reached when all tokens in front of it have been taken.
-/

namespace PerlLint.Json

/-! ## States -/

/-- An array or object in which a value is being read. -/
inductive Frame where
  /-- An array, opened at `place`, with the items so far, last first. -/
  | array (place : Nat) (items : List Json)
  /-- An object, opened at `place`, with the members so far, last first, and the
  key of the value being read. -/
  | object (place : Nat) (members : List (String × Json)) (key : String)

/-- What is due next.  `around` are the arrays and objects around. -/
inductive ReadState where
  /-- The value of the whole text. -/
  | start
  /-- An item or the end of an array; also a comma, if `comma` says so. -/
  | inArray (place : Nat) (items : List Json) (comma : Bool) (around : List Frame)
  /-- A key or the end of an object; also a comma, if `comma` says so. -/
  | inObject (place : Nat) (members : List (String × Json)) (comma : Bool) (around : List Frame)
  /-- A colon. -/
  | afterKey (place : Nat) (members : List (String × Json)) (key : String) (around : List Frame)
  /-- The value of a member. -/
  | afterColon (place : Nat) (members : List (String × Json)) (key : String)
      (around : List Frame)
  /-- Nothing. -/
  | done (value : Json)

/-! ## Steps -/

/-- The state after a whole value. -/
def complete (value : Json) : (around : List Frame) → ReadState
  | [] => .done value
  | .array place items :: around => .inArray place (value :: items) true around
  | .object place members key :: around => .inObject place ((key, value) :: members) true around

/-- Takes a token where a value is due. -/
def takeValue (place : Nat) (t : Token) (around : List Frame) : Except Fault ReadState :=
  match t with
  | .openBrace => .ok (.inObject place [] false around)
  | .openBracket => .ok (.inArray place [] false around)
  | .string s => .ok (complete (.string (String.ofList s)) around)
  | .number _ value => .ok (complete value around)
  | .bool b => .ok (complete (.bool b) around)
  | .null => .ok (complete .null around)
  | .word _ => .error .unexpectedWord
  | .closeBrace => .error .unexpectedCloseBrace
  | .closeBracket => .error .unexpectedCloseBracket
  | .comma => .error .unexpectedComma
  | .colon => .error .unexpectedColon

/-- Takes the token at `place`. -/
def ReadState.take (state : ReadState) (place : Nat) (t : Token) : Except Fault ReadState :=
  match state with
  | .start => takeValue place t []
  | .inArray opened items comma around =>
      match comma, t with
      | true, .comma => .ok (.inArray opened items false around)
      | _, .closeBracket => .ok (complete (.array items.reverse) around)
      | _, t => takeValue place t (.array opened items :: around)
  | .inObject opened members comma around =>
      match comma, t with
      | true, .comma => .ok (.inObject opened members false around)
      | _, .closeBrace => .ok (complete (.ofMembers members.reverse) around)
      | _, .string s => .ok (.afterKey opened members (String.ofList s) around)
      | _, .word s => .ok (.afterKey opened members (String.ofList s) around)
      | _, .number s _ => .ok (.afterKey opened members (String.ofList s) around)
      | _, _ => .error .unexpectedTokenInObject
  | .afterKey opened members key around =>
      match t with
      | .colon => .ok (.afterColon opened members key around)
      | _ => .error .missingColon
  | .afterColon opened members key around =>
      takeValue place t (.object opened members key :: around)
  | .done _ => .error .secondValue

/-- The value, when the text ends at `place`. -/
def ReadState.finish (state : ReadState) (place : Nat) : Except (Fault × Nat) Json :=
  match state with
  | .start => .ok (.object [])
  | .done value => .ok value
  | .inArray opened _ _ _ => .error (.unterminatedArray, opened)
  | .inObject opened _ _ _ => .error (.unterminatedObject, opened)
  | .afterKey _ _ _ _ => .error (.missingColon, place)
  | .afterColon _ _ _ _ => .error (.missingValue, place)

/-- Takes all tokens, and then the end of the scan. -/
def ReadState.run (state : ReadState) (stop : ScanEnd) (stopAt : Nat) :
    List (Nat × Token) → Except (Fault × Nat) Json
  | [] =>
      match stop with
      | .text => state.finish stopAt
      | .fault f => .error (f, stopAt)
  | (place, t) :: ts =>
      match state.take place t with
      | .ok next => next.run stop stopAt ts
      | .error f => .error (f, place)
termination_by structural ts => ts

/-! ## Reading -/

/-- A fault and where it is, lines and columns counted from 1. -/
structure ReadError where
  /-- What is wrong. -/
  fault : Fault
  /-- The line.  Only a line feed ends a line. -/
  line : Nat
  /-- The column, in characters. -/
  column : Nat
deriving Repr, DecidableEq

/-- The wording of an error. -/
def ReadError.message (e : ReadError) : String :=
  e.fault.message ++ " on line " ++ toString e.line ++ " column " ++ toString e.column

/-- A fault with the line and column of the place `offset` characters into a
text. -/
def ReadError.at (text : List Char) (fault : Fault) (offset : Nat) : ReadError :=
  let front := text.take offset
  ⟨fault, front.count '\n' + 1, (front.reverse.takeWhile (· != '\n')).length + 1⟩

/-- The value that a text of commented JSON stands for. -/
def read (text : List Char) : Except ReadError Json :=
  let s := scan text
  match ReadState.start.run s.stop s.stopAt s.tokens with
  | .ok value => .ok value
  | .error (f, offset) => .error (.at text f offset)

/-- Commas may be missing or stand at the end, and the last value of a key counts. -/
example : (read "\x7b a: 1 'b': [true,] /* */ a: null \x7d // end".toList).toOption
    = some (.object [("a", .null), ("b", .array [.bool true])]) := by decide +kernel

end PerlLint.Json
