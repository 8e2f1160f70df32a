import PerlLint.Json.Reader
import PerlLint.Proofs.Json.Spacing

/-!
# Reading undoes writing

A value is written as a sequence of tokens (`tokens`).  Printed without anything between them they
are its compact text (`compact_eq`).  The reader makes the value of them again, whatever stands
between them, and also if commas follow the last items and members (`read_spread`).

Members are read in the order of their keys, and of two members with the same key the last one
counts.  `normal` brings a value into the form that it is read in.
-/

namespace PerlLint.Json

/-! ## The tokens of a value -/

/-- A comma, if there is to be one. -/
def commaIf (b : Bool) : List Token := if b then [.comma] else []

mutual

/-- The tokens of a value.  A comma follows the last item or member of those arrays and objects of
which `trailing` says so. -/
def tokens (trailing : Json → Bool) : Json → List Token
  | .null => [.null]
  | .bool b => [.bool b]
  | .number n => [.number n.write (.number n)]
  | .string s => [.string s.toList]
  | .array xs =>
      .openBracket :: (itemTokens trailing xs
        ++ (commaIf (trailing (.array xs) && !xs.isEmpty) ++ [.closeBracket]))
  | .object ms =>
      .openBrace :: (memberTokens trailing ms
        ++ (commaIf (trailing (.object ms) && !ms.isEmpty) ++ [.closeBrace]))
termination_by structural v => v

/-- The tokens of items with commas between them. -/
def itemTokens (trailing : Json → Bool) : List Json → List Token
  | [] => []
  | x :: xs => tokens trailing x ++ (if xs.isEmpty then [] else .comma :: itemTokens trailing xs)
termination_by structural xs => xs

/-- The tokens of members with commas between them. -/
def memberTokens (trailing : Json → Bool) : List (String × Json) → List Token
  | [] => []
  | (k, x) :: ms =>
      .string k.toList :: .colon ::
        (tokens trailing x ++ (if ms.isEmpty then [] else .comma :: memberTokens trailing ms))
termination_by structural ms => ms

end

mutual

/-- The compact text of a value is made of its tokens. -/
theorem compact_eq : (v : Json) →
    v.compact = (v.tokens fun _ => false).flatMap Token.spelling
  | .null => rfl
  | .bool _ => by simp [compact, tokens, Token.spelling]
  | .number _ => by simp [compact, tokens, Token.spelling, writeScalar]
  | .string _ => by simp [compact, tokens, Token.spelling, writeScalar]
  | .array xs => by
      rw [compact, compactItems_eq xs]
      simp [tokens, Token.spelling, commaIf]
  | .object ms => by
      rw [compact, compactMembers_eq ms]
      simp [tokens, Token.spelling, commaIf]
termination_by structural v => v

theorem compactItems_eq : (xs : List Json) →
    compactItems xs = (itemTokens (fun _ => false) xs).flatMap Token.spelling
  | [] => rfl
  | x :: xs => by
      rw [compactItems, compact_eq x, compactItems_eq xs]
      cases xs <;> simp [itemTokens, Token.spelling]
termination_by structural xs => xs

theorem compactMembers_eq : (ms : List (String × Json)) →
    compactMembers ms = (memberTokens (fun _ => false) ms).flatMap Token.spelling
  | [] => rfl
  | (k, x) :: ms => by
      rw [compactMembers, compact_eq x, compactMembers_eq ms]
      cases ms <;> simp [memberTokens, Token.spelling]
termination_by structural ms => ms

end

/-! ## Where bare tokens stand -/

variable {trailing : Json → Bool} {rest : List Token}

theorem Separated.of_mark {t : Token} {ts : List Token} (ht : t.isBare = false)
    (hts : Separated ts) : Separated (t :: ts) :=
  .cons (fun hbare => absurd (ht.symm.trans hbare) Bool.false_ne_true) hts

/-- What follows the items of an array, and likewise the members of an object. -/
theorem separated_commaIf {t : Token} (ht : t.isBare = false) (hrest : Separated rest) (b : Bool) :
    Separated (commaIf b ++ (t :: rest)) := by
  cases b with
  | false => exact hrest.of_mark ht
  | true => exact (hrest.of_mark ht).of_mark rfl

theorem closing_cons {t : Token} (ht : t.isCloser) (ts : List Token) : Closing (t :: ts) := by
  intro t' ht'
  cases ht'
  exact ht

theorem closing_commaIf {t : Token} (ht : t.isCloser) (b : Bool) :
    Closing (commaIf b ++ (t :: rest)) := by
  cases b with
  | false => exact closing_cons ht _
  | true => exact closing_cons rfl _

mutual

/-- In what is written for a value no bare token meets another one, if what follows may come
after a value. -/
theorem separated_tokens : (v : Json) → {rest : List Token} → Separated rest → Closing rest →
    Separated (v.tokens trailing ++ rest)
  | .null, _, hrest, hclosing | .bool _, _, hrest, hclosing | .number _, _, hrest, hclosing =>
      .cons (fun _ => hclosing) hrest
  | .string _, _, hrest, _ => hrest.of_mark rfl
  | .array xs, rest, hrest, _ => by
      have hend : Separated (commaIf _ ++ (.closeBracket :: rest)) :=
        separated_commaIf rfl hrest (trailing (.array xs) && !xs.isEmpty)
      have hitems := separated_itemTokens xs hend (closing_commaIf rfl _)
      have hall : Separated (.openBracket :: _) := hitems.of_mark rfl
      rw [tokens]
      simpa using hall
  | .object ms, rest, hrest, _ => by
      have hend : Separated (commaIf _ ++ (.closeBrace :: rest)) :=
        separated_commaIf rfl hrest (trailing (.object ms) && !ms.isEmpty)
      have hmembers := separated_memberTokens ms hend (closing_commaIf rfl _)
      have hall : Separated (.openBrace :: _) := hmembers.of_mark rfl
      rw [tokens]
      simpa using hall
termination_by structural v => v

theorem separated_itemTokens : (xs : List Json) → {rest : List Token} → Separated rest →
    Closing rest → Separated (itemTokens trailing xs ++ rest)
  | [], _, hrest, _ => hrest
  | x :: xs, rest, hrest, hclosing => by
      have hitems := separated_itemTokens xs hrest hclosing
      rw [itemTokens, List.append_assoc]
      split
      case isTrue => exact separated_tokens x hrest hclosing
      case isFalse => exact separated_tokens x (hitems.of_mark rfl) (closing_cons rfl _)
termination_by structural xs => xs

theorem separated_memberTokens : (ms : List (String × Json)) → {rest : List Token} →
    Separated rest → Closing rest → Separated (memberTokens trailing ms ++ rest)
  | [], _, hrest, _ => hrest
  | (k, x) :: ms, rest, hrest, hclosing => by
      have hmembers := separated_memberTokens ms hrest hclosing
      rw [memberTokens, List.cons_append, List.cons_append, List.append_assoc]
      refine .of_mark rfl (.of_mark rfl ?_)
      split
      case isTrue => exact separated_tokens x hrest hclosing
      case isFalse => exact separated_tokens x (hmembers.of_mark rfl) (closing_cons rfl _)
termination_by structural ms => ms

end

/-! ## Which tokens occur -/

mutual

/-- The numbers in a value. -/
def numbers : Json → List Number
  | .number n => [n]
  | .array xs => itemNumbers xs
  | .object ms => memberNumbers ms
  | _ => []
termination_by structural v => v

/-- The numbers in items. -/
def itemNumbers : List Json → List Number
  | [] => []
  | x :: xs => numbers x ++ itemNumbers xs
termination_by structural xs => xs

/-- The numbers in members. -/
def memberNumbers : List (String × Json) → List Number
  | [] => []
  | (_, x) :: ms => numbers x ++ memberNumbers ms
termination_by structural ms => ms

end

/-- The numbers in items are those in each of them. -/
theorem mem_itemNumbers_iff {xs : List Json} {n : Number} :
    n ∈ itemNumbers xs ↔ ∃ x ∈ xs, n ∈ x.numbers := by
  induction xs with
  | nil => simp [itemNumbers]
  | cons x xs ih => simp [itemNumbers, ih]

/-- The numbers in members are those in each of their values. -/
theorem mem_memberNumbers_iff {ms : List (String × Json)} {n : Number} :
    n ∈ memberNumbers ms ↔ ∃ m ∈ ms, n ∈ m.2.numbers := by
  induction ms with
  | nil => simp [memberNumbers]
  | cons m ms ih => simp [memberNumbers, ih]

theorem legible_of_mem_commaIf {t : Token} {b : Bool} (ht : t ∈ commaIf b) : t.Legible := by
  cases b with
  | false => cases ht
  | true =>
      rw [List.mem_singleton.1 ht]
      exact legible_mark (by simp)

mutual

/-- The scanner knows the tokens of a value, if it knows its numbers. -/
theorem legible_tokens : (v : Json) →
    (∀ n ∈ v.numbers, (Token.number n.write (.number n)).Legible) →
    ∀ t ∈ v.tokens trailing, t.Legible
  | .null, _, t, ht => List.mem_singleton.1 ht ▸ legible_null
  | .bool b, _, t, ht => List.mem_singleton.1 ht ▸ legible_bool b
  | .number n, hn, t, ht => List.mem_singleton.1 ht ▸ hn n (.head _)
  | .string s, _, t, ht => List.mem_singleton.1 ht ▸ legible_string s.toList
  | .array xs, hn, t, ht => by
      simp only [tokens, List.mem_cons, List.mem_append, List.not_mem_nil, or_false] at ht
      obtain rfl | hitem | hcomma | rfl := ht
      · exact legible_mark (by simp)
      · exact legible_itemTokens xs hn t hitem
      · exact legible_of_mem_commaIf hcomma
      · exact legible_mark (by simp)
  | .object ms, hn, t, ht => by
      simp only [tokens, List.mem_cons, List.mem_append, List.not_mem_nil, or_false] at ht
      obtain rfl | hmember | hcomma | rfl := ht
      · exact legible_mark (by simp)
      · exact legible_memberTokens ms hn t hmember
      · exact legible_of_mem_commaIf hcomma
      · exact legible_mark (by simp)
termination_by structural v => v

theorem legible_itemTokens : (xs : List Json) →
    (∀ n ∈ itemNumbers xs, (Token.number n.write (.number n)).Legible) →
    ∀ t ∈ itemTokens trailing xs, t.Legible
  | [], _, _, ht => nomatch ht
  | x :: xs, hn, t, ht => by
      have hx := legible_tokens x fun n h => hn n (List.mem_append_left _ h)
      have hxs := legible_itemTokens xs fun n h => hn n (List.mem_append_right _ h)
      rw [itemTokens, List.mem_append] at ht
      obtain ht | ht := ht
      · exact hx t ht
      · split at ht
        · cases ht
        · obtain rfl | ht := List.mem_cons.1 ht
          · exact legible_mark (by simp)
          · exact hxs t ht
termination_by structural xs => xs

theorem legible_memberTokens : (ms : List (String × Json)) →
    (∀ n ∈ memberNumbers ms, (Token.number n.write (.number n)).Legible) →
    ∀ t ∈ memberTokens trailing ms, t.Legible
  | [], _, _, ht => nomatch ht
  | (k, x) :: ms, hn, t, ht => by
      have hx := legible_tokens x fun n h => hn n (List.mem_append_left _ h)
      have hms := legible_memberTokens ms fun n h => hn n (List.mem_append_right _ h)
      rw [memberTokens, List.mem_cons, List.mem_cons, List.mem_append] at ht
      obtain rfl | rfl | ht | ht := ht
      · exact legible_string k.toList
      · exact legible_mark (by simp)
      · exact hx t ht
      · split at ht
        · cases ht
        · obtain rfl | ht := List.mem_cons.1 ht
          · exact legible_mark (by simp)
          · exact hms t ht
termination_by structural ms => ms

end

/-! ## What the reader makes of the tokens -/

mutual

/-- A value with the members of its objects in order. -/
def normal : Json → Json
  | .array xs => .array (normalItems xs)
  | .object ms => .ofMembers (normalMembers ms)
  | v => v
termination_by structural v => v

/-- Items with the members of their objects in order. -/
def normalItems : List Json → List Json
  | [] => []
  | x :: xs => normal x :: normalItems xs
termination_by structural xs => xs

/-- Members with the members of their values in order. -/
def normalMembers : List (String × Json) → List (String × Json)
  | [] => []
  | (k, x) :: ms => (k, normal x) :: normalMembers ms
termination_by structural ms => ms

end

theorem normalItems_eq {xs : List Json} (h : ∀ x ∈ xs, x.normal = x) : normalItems xs = xs := by
  induction xs with
  | nil => rfl
  | cons x xs ih =>
      rw [normalItems, h x (.head _), ih fun x' hx' => h x' (.tail _ hx')]

theorem normalMembers_eq {ms : List (String × Json)} (h : ∀ m ∈ ms, m.2.normal = m.2) :
    normalMembers ms = ms := by
  induction ms with
  | nil => rfl
  | cons m ms ih =>
      rw [normalMembers, h m (.head _), ih fun m' hm' => h m' (.tail _ hm')]

/-- Wherever they stand, the tokens bring the reader from one state to another. -/
def Reads (ts : List Token) (state next : ReadState) : Prop :=
  ∀ placed : List (Nat × Token), placed.map Prod.snd = ts →
    ∀ stop stopAt rest, state.run stop stopAt (placed ++ rest) = next.run stop stopAt rest

variable {state next last : ReadState} {ts ts' : List Token} {t : Token} {around : List Frame}

theorem reads_nil (state : ReadState) : Reads [] state state := by
  intro placed hplaced stop stopAt rest
  rw [List.map_eq_nil_iff.1 hplaced, List.nil_append]

theorem Reads.append (h : Reads ts state next) (h' : Reads ts' next last) :
    Reads (ts ++ ts') state last := by
  intro placed hplaced stop stopAt rest
  obtain ⟨front, back, rfl, hfront, hback⟩ := List.map_eq_append_iff.1 hplaced
  rw [List.append_assoc, h front hfront, h' back hback]

theorem reads_cons (h : ∀ place, ∃ next, state.take place t = .ok next ∧ Reads ts next last) :
    Reads (t :: ts) state last := by
  intro placed hplaced stop stopAt rest
  obtain ⟨⟨place, t'⟩, placed, rfl, ht, hplaced⟩ := List.map_eq_cons_iff.1 hplaced
  obtain ⟨next, hnext, hreads⟩ := h place
  have ht : t' = t := ht
  rw [List.cons_append, ReadState.run, ht, hnext]
  exact hreads placed hplaced stop stopAt rest

/-- A token that does the same wherever it stands. -/
theorem reads_singleton (h : ∀ place, state.take place t = .ok next) : Reads [t] state next :=
  reads_cons fun place => ⟨next, h place, reads_nil next⟩

/-- A value is due, and what is around it is `around`. -/
def Due (state : ReadState) (around : List Frame) : Prop :=
  ∀ place t, (t.isCloser = false) → state.take place t = takeValue place t around

theorem due_start : Due .start [] := fun _ _ _ => rfl

theorem due_inArray (place : Nat) (items : List Json) (comma : Bool) (around : List Frame) :
    Due (.inArray place items comma around) (.array place items :: around) := by
  intro place' t ht
  cases t with
  | comma | closeBracket | closeBrace => cases ht
  | _ => cases comma <;> rfl

theorem due_afterColon (place : Nat) (members : List (String × Json)) (key : String)
    (around : List Frame) :
    Due (.afterColon place members key around) (.object place members key :: around) :=
  fun _ _ _ => rfl

/-- A comma may stand before the end of an array. -/
theorem reads_closeBracket (b : Bool) (place : Nat) (items : List Json) (around : List Frame)
    (comma : Bool) (hb : b → comma) :
    Reads (commaIf b ++ [.closeBracket]) (.inArray place items comma around)
      (complete (.array items.reverse) around) := by
  have hclose : ∀ comma, Reads [.closeBracket] (.inArray place items comma around)
      (complete (.array items.reverse) around) :=
    fun comma => reads_singleton fun _ => by cases comma <;> rfl
  cases b with
  | false => exact hclose comma
  | true =>
      rw [hb rfl]
      exact reads_cons fun _ => ⟨_, rfl, hclose false⟩

/-- A comma may stand before the end of an object. -/
theorem reads_closeBrace (b : Bool) (place : Nat) (members : List (String × Json))
    (around : List Frame) (comma : Bool) (hb : b → comma) :
    Reads (commaIf b ++ [.closeBrace]) (.inObject place members comma around)
      (complete (.ofMembers members.reverse) around) := by
  have hclose : ∀ comma, Reads [.closeBrace] (.inObject place members comma around)
      (complete (.ofMembers members.reverse) around) :=
    fun comma => reads_singleton fun _ => by cases comma <;> rfl
  cases b with
  | false => exact hclose comma
  | true =>
      rw [hb rfl]
      exact reads_cons fun _ => ⟨_, rfl, hclose false⟩

mutual

/-- The tokens of a value are read as the value with its members in order. -/
theorem reads_tokens : (v : Json) → {state : ReadState} → {around : List Frame} →
    Due state around → Reads (v.tokens trailing) state (complete v.normal around)
  | .null, _, _, hdue | .bool _, _, _, hdue | .number _, _, _, hdue =>
      reads_singleton fun place => hdue place _ rfl
  | .string s, _, _, hdue =>
      reads_singleton fun place => by
        rw [hdue place _ rfl, takeValue, String.ofList_toList]
        rfl
  | .array xs, _, around, hdue => by
      rw [tokens]
      refine reads_cons fun place => ⟨_, hdue place _ rfl, ?_⟩
      have hclose := reads_closeBracket (trailing (.array xs) && !xs.isEmpty) place
        ((normalItems xs).reverse ++ []) around (!xs.isEmpty) (by simp)
      have hall := (reads_itemTokens xs place [] around).append hclose
      rw [List.append_nil, List.reverse_reverse] at hall
      exact hall
  | .object ms, _, around, hdue => by
      rw [tokens]
      refine reads_cons fun place => ⟨_, hdue place _ rfl, ?_⟩
      have hclose := reads_closeBrace (trailing (.object ms) && !ms.isEmpty) place
        ((normalMembers ms).reverse ++ []) around (!ms.isEmpty) (by simp)
      have hall := (reads_memberTokens ms place [] around).append hclose
      rw [List.append_nil, List.reverse_reverse] at hall
      exact hall
termination_by structural v => v

theorem reads_itemTokens : (xs : List Json) → (place : Nat) → (items : List Json) →
    (around : List Frame) →
    Reads (itemTokens trailing xs) (.inArray place items false around)
      (.inArray place ((normalItems xs).reverse ++ items) (!xs.isEmpty) around)
  | [], place, items, around => reads_nil _
  | x :: xs, place, items, around => by
      have hx := reads_tokens x (due_inArray place items false around)
      have hxs := reads_itemTokens xs place (x.normal :: items) around
      have hitems : (normalItems (x :: xs)).reverse ++ items
          = (normalItems xs).reverse ++ x.normal :: items := by
        rw [normalItems, List.reverse_cons, List.append_assoc, List.singleton_append]
      rw [itemTokens, hitems]
      cases xs with
      | nil => exact hx.append (reads_nil _)
      | cons y ys => exact hx.append (reads_cons fun _ => ⟨_, rfl, hxs⟩)
termination_by structural xs => xs

theorem reads_memberTokens : (ms : List (String × Json)) → (place : Nat) →
    (members : List (String × Json)) → (around : List Frame) →
    Reads (memberTokens trailing ms) (.inObject place members false around)
      (.inObject place ((normalMembers ms).reverse ++ members) (!ms.isEmpty) around)
  | [], place, members, around => reads_nil _
  | (k, x) :: ms, place, members, around => by
      have hx := reads_tokens x (due_afterColon place members k around)
      have hms := reads_memberTokens ms place ((k, x.normal) :: members) around
      have hmembers : (normalMembers ((k, x) :: ms)).reverse ++ members
          = (normalMembers ms).reverse ++ (k, x.normal) :: members := by
        rw [normalMembers, List.reverse_cons, List.append_assoc, List.singleton_append]
      rw [memberTokens, hmembers]
      refine reads_cons fun _ => ⟨_, rfl, reads_cons fun _ => ⟨_, rfl, ?_⟩⟩
      rw [String.ofList_toList]
      cases ms with
      | nil => exact hx.append (reads_nil _)
      | cons m ms => exact hx.append (reads_cons fun _ => ⟨_, rfl, hms⟩)
termination_by structural ms => ms

end

/-- A value is read from what is written for it, whatever blanks and comments stand between the
tokens, and also if commas follow the last items and members. -/
theorem read_spread {v : Json} {text : List Char}
    (hv : ∀ n ∈ v.numbers, (Token.number n.write (.number n)).Legible)
    (h : Spread (v.tokens trailing) text) : read text = .ok v.normal := by
  have hseparated : Separated (v.tokens trailing ++ []) := separated_tokens v .nil nofun
  rw [List.append_nil] at hseparated
  obtain ⟨htokens, hstop⟩ := scan_spread h hseparated (legible_tokens v hv)
  have hreads : Reads (v.tokens trailing) .start (complete v.normal []) := reads_tokens v due_start
  have hrun := hreads (scan text).tokens htokens .text (scan text).stopAt []
  rw [List.append_nil] at hrun
  rw [read, hstop, hrun]
  rfl

end PerlLint.Json
