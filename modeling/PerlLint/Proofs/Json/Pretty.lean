import PerlLint.Proofs.Config.Merge
import PerlLint.Proofs.Json.Members
import PerlLint.Proofs.Json.Plain

/-!
# One line per item

The layout with one line per item puts nothing but spaces and line feeds between the tokens of a
value, so it is plain JSON (`spaced_pretty`), and the reader makes the value of it again.

The reader puts the members of objects in the order of their keys.  Objects that were made of
members have them in this order, so they are read as they were (`faithful_ofMembers`).
-/

namespace PerlLint.Json

/-! ## The layout -/

theorem isSpace_of_mem_newLine (depth : Nat) : ∀ c ∈ newLine depth, isSpace c := by
  intro c hc
  rcases List.mem_cons.1 hc with rfl | hc
  · rfl
  · rw [List.eq_of_mem_replicate hc]
    rfl

/-- The numbers are written as in plain JSON. -/
def PlainNumbers (ns : List Number) : Prop :=
  ∀ n ∈ ns, Spells (.number n.write (.number n)) n.write

theorem plainNumbers_append {ns ms : List Number} :
    PlainNumbers (ns ++ ms) ↔ PlainNumbers ns ∧ PlainNumbers ms :=
  List.forall_mem_append

variable {text : List Char}

mutual

/-- The layout with one line per item is plain JSON. -/
theorem spaced_pretty : (v : Json) → (depth : Nat) → PlainNumbers v.numbers →
    {ts : List Token} → {text : List Char} →
    Spaced ts text → Spaced (v.tokens (fun _ => false) ++ ts) (pretty depth v ++ text)
  | .null, _, _, _, _, h => h.token .null
  | .bool .true, _, _, _, _, h => h.token .true
  | .bool .false, _, _, _, _, h => h.token .false
  | .number n, _, hn, _, _, h => h.token (t := .number n.write (.number n)) (hn n (.head _))
  | .string s, _, _, _, _, h => h.token (spells_string s.toList)
  | .array [], _, _, _, _, h => (h.token .closeBracket).token .openBracket
  | .object [], _, _, _, _, h => (h.token .closeBrace).token .openBrace
  | .array (x :: xs), depth, hn, _, _, h => by
      have hend := (h.token .closeBracket).spaces (isSpace_of_mem_newLine depth)
      have hitems := spaced_prettyItems (x :: xs) (depth + 1) hn hend
      have hall := hitems.token .openBracket
      simpa [tokens, pretty, commaIf, Token.spelling] using hall
  | .object (m :: ms), depth, hn, _, _, h => by
      have hend := (h.token .closeBrace).spaces (isSpace_of_mem_newLine depth)
      have hmembers := spaced_prettyMembers (m :: ms) (depth + 1) hn hend
      have hall := hmembers.token .openBrace
      simpa [tokens, pretty, commaIf, Token.spelling] using hall
termination_by structural v => v

theorem spaced_prettyItems : (xs : List Json) → (depth : Nat) → PlainNumbers (itemNumbers xs) →
    {ts : List Token} → {text : List Char} → Spaced ts text →
    Spaced (itemTokens (fun _ => false) xs ++ ts) (prettyItems depth xs ++ text)
  | [], _, _, _, _, h => h
  | x :: xs, depth, hn, _, _, h => by
      obtain ⟨hnx, hnxs⟩ := plainNumbers_append.1 hn
      have hrest := spaced_prettyItems xs depth hnxs h
      rw [itemTokens, prettyItems]
      cases xs with
      | nil =>
          have hx := (spaced_pretty x depth hnx hrest).spaces (isSpace_of_mem_newLine depth)
          simpa [itemTokens, prettyItems] using hx
      | cons y ys =>
          have hcomma := hrest.token .comma
          have hx := (spaced_pretty x depth hnx hcomma).spaces (isSpace_of_mem_newLine depth)
          simpa [Token.spelling] using hx
termination_by structural xs => xs

theorem spaced_prettyMembers : (ms : List (String × Json)) → (depth : Nat) →
    PlainNumbers (memberNumbers ms) → {ts : List Token} → {text : List Char} → Spaced ts text →
    Spaced (memberTokens (fun _ => false) ms ++ ts) (prettyMembers depth ms ++ text)
  | [], _, _, _, _, h => h
  | (k, x) :: ms, depth, hn, ts, text, h => by
      obtain ⟨hnx, hnms⟩ := plainNumbers_append.1 hn
      have hrest := spaced_prettyMembers ms depth hnms h
      have hspace : ∀ c ∈ [' '], isSpace c := List.forall_mem_singleton.2 rfl
      -- The key, the colon and the space behind it stand in front of the value.
      have hmember : ∀ {ts' text'}, Spaced ts' text' →
          Spaced (.string k.toList :: .colon :: (x.tokens (fun _ => false) ++ ts'))
            (newLine depth ++ (quote k.toList ++ ':' :: ' ' :: (pretty depth x ++ text'))) := by
        intro ts' text' h'
        have hvalue := ((spaced_pretty x depth hnx h').spaces hspace).token .colon
        exact (hvalue.token (spells_string k.toList)).spaces (isSpace_of_mem_newLine depth)
      rw [memberTokens, prettyMembers]
      cases ms with
      | nil => simpa [memberTokens, prettyMembers] using hmember hrest
      | cons m ms => simpa [Token.spelling] using hmember (hrest.token .comma)
termination_by structural ms => ms

end

/-! ## Objects that were made of members -/

variable {ms : Members}

theorem get?_ofMembers (ms : Members) (key : String) :
    (ofMembers ms).get? key = Members.get? ms.reverse key := by
  rw [ofMembers, get?, Members.ofList, Members.get?_overlay]
  exact Option.or_none

/-! ## Values that are read as they were written -/

/-- The objects of the value have their members in order, and its numbers are natural numbers that
fit 64 bits. -/
structure Faithful (v : Json) : Prop where
  normal_eq : v.normal = v
  numbers : ∀ n ∈ v.numbers, ∃ k < Numeral.digitBound, n = .int (Int.ofNat k)

theorem Faithful.plainNumbers {v : Json} (hv : Faithful v) : PlainNumbers v.numbers := by
  intro n hn
  obtain ⟨k, -, rfl⟩ := hv.numbers n hn
  exact spells_nat k

/-- The value is read from its tokens with spaces around them. -/
theorem read_faithful {v : Json} (hv : Faithful v)
    (h : Spaced (v.tokens fun _ => false) text) : read text = .ok v := by
  have hlegible : ∀ n ∈ v.numbers, (Token.number n.write (.number n)).Legible := by
    intro n hn
    obtain ⟨k, hk, rfl⟩ := hv.numbers n hn
    exact legible_nat hk
  rw [read_spread hlegible h.spread, hv.normal_eq]

theorem faithful_nat {n : Nat} (h : n < Numeral.digitBound) : Faithful (.nat n) := by
  refine ⟨rfl, ?_⟩
  intro m hm
  exact ⟨n, h, List.mem_singleton.1 hm⟩

theorem faithful_string (s : String) : Faithful (.string s) := ⟨rfl, nofun⟩

theorem faithful_array {xs : List Json} (h : ∀ x ∈ xs, Faithful x) : Faithful (.array xs) := by
  refine ⟨?_, ?_⟩
  · rw [normal, normalItems_eq fun x hx => (h x hx).normal_eq]
  · intro n hn
    obtain ⟨x, hx, hn⟩ := mem_itemNumbers_iff.1 hn
    exact (h x hx).numbers n hn

/-- An object that was made of members has them in order. -/
theorem normal_ofMembers (h : ∀ m ∈ ms, m.2.normal = m.2) :
    (ofMembers ms).normal = ofMembers ms := by
  have hms : normalMembers (Members.ofList ms) = Members.ofList ms :=
    normalMembers_eq fun m hm => h m (Members.mem_of_mem_ofList hm)
  rw [ofMembers, normal, hms, ofMembers, Members.ofList_eq_self (Members.sorted_ofList ms)]

theorem faithful_ofMembers (h : ∀ m ∈ ms, Faithful m.2) : Faithful (ofMembers ms) := by
  refine ⟨normal_ofMembers fun m hm => (h m hm).normal_eq, ?_⟩
  intro n hn
  obtain ⟨m, hm, hn⟩ := mem_memberNumbers_iff.1 hn
  exact (h m (Members.mem_of_mem_ofList hm)).numbers n hn

end PerlLint.Json
