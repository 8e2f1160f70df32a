import PerlLint.Proofs.Json.Quoting
import PerlLint.Proofs.Text.Split

/-!
# Tokens with gaps between them

`Spread` relates tokens to the texts in which they stand one after the other, with gaps in front
of them, between them and at the end.  A *gap* is made of blanks and comments.  `scan_spread` says
that scanning such a text gives the tokens back.

A token between quotes and a punctuation mark end by themselves.  A *bare* token goes on until
something comes that cannot be part of it, so two of them must not meet: in what is written for a
value a bare token stands in front of a comma or a closing bracket (`Separated`).
-/

namespace PerlLint.Json

/-- Blanks and comments.  A comment to the end of the line has its line feed, and a comment
between marks ends with the first mark. -/
inductive Gap : List Char → Prop where
  | nil : Gap []
  | blank {c : Char} {g : List Char} : Text.isBlank c → Gap g → Gap (c :: g)
  | line {body g : List Char} : '\n' ∉ body → Gap g → Gap ('/' :: '/' :: (body ++ '\n' :: g))
  | block {body g : List Char} :
    ¬ ['*', '/'] <:+: body → Gap g → Gap ('/' :: '*' :: (body ++ '*' :: '/' :: g))

namespace Token

/-- A token as it is written. -/
def spelling : Token → List Char
  | openBrace => ['{']
  | closeBrace => ['}']
  | openBracket => ['[']
  | closeBracket => [']']
  | comma => [',']
  | colon => [':']
  | string s => quote s
  | word s | number s _ => s
  | bool b => writeScalar (.bool b)
  | null => writeScalar .null

/-- Whether a token goes on until something else comes. -/
def isBare : Token → Bool
  | word _ | number _ _ | bool _ | null => true
  | _ => false

/-- Whether a token may come after a value. -/
def isCloser : Token → Bool
  | comma | closeBrace | closeBracket => true
  | _ => false

end Token

/-- Tokens with gaps around them. -/
inductive Spread : List Token → List Char → Prop where
  | nil {g : List Char} : Gap g → Spread [] g
  | cons {g text : List Char} {t : Token} {ts : List Token} :
    Gap g → Spread ts text → Spread (t :: ts) (g ++ (t.spelling ++ text))

/-- A character that is no part of a bare token. -/
def isDelimiter (c : Char) : Bool :=
  Text.isBlank c || c == '/' || c == ',' || c == ']' || c == '}'

/-- A bare token in front of the text ends there. -/
def Delimited (text : List Char) : Prop := ∀ c ∈ text.head?, isDelimiter c

/-- The scanner knows a token when it sees it. -/
def Token.Legible (t : Token) : Prop :=
  ∀ rest, (t.isBare → Delimited rest) →
    piece (t.spelling ++ rest) = .token t t.spelling.length

/-- The tokens begin with one that may come after a value, if there are any. -/
def Closing (ts : List Token) : Prop := ∀ t ∈ ts.head?, t.isCloser

/-- No bare token meets another one. -/
inductive Separated : List Token → Prop where
  | nil : Separated []
  | cons {t : Token} {ts : List Token} :
    (t.isBare → Closing ts) → Separated ts → Separated (t :: ts)

variable {c : Char} {g text rest body : List Char} {t : Token} {ts : List Token}

/-! ## Gaps -/

theorem delimited_cons (hc : isDelimiter c) (rest : List Char) : Delimited (c :: rest) := by
  intro c' hc'
  cases hc'
  exact hc

theorem Gap.delimited (hg : Gap g) (hrest : Delimited rest) : Delimited (g ++ rest) := by
  cases hg with
  | nil => exact hrest
  | blank hc _ => exact delimited_cons (by rw [isDelimiter, hc]; rfl) _
  | line _ _ => exact delimited_cons rfl _
  | block _ _ => exact delimited_cons rfl _

theorem Gap.append {g' : List Char} (hg : Gap g) (hg' : Gap g') : Gap (g ++ g') := by
  induction hg with
  | nil => exact hg'
  | blank hc _ ih => exact .blank hc ih
  | line hbody _ ih =>
      rw [List.cons_append, List.cons_append, List.append_assoc]
      exact .line hbody ih
  | block hbody _ ih =>
      rw [List.cons_append, List.cons_append, List.append_assoc]
      exact .block hbody ih

/-- A gap may be put in front. -/
theorem Spread.of_gap (h : Spread ts text) (hg : Gap g) : Spread ts (g ++ text) := by
  cases h with
  | nil hg' => exact .nil (hg.append hg')
  | cons hg' hts =>
      rw [← List.append_assoc]
      exact .cons (hg.append hg') hts

/-- There need not be any gaps. -/
theorem spread_flatMap (ts : List Token) : Spread ts (ts.flatMap Token.spelling) := by
  induction ts with
  | nil => exact .nil .nil
  | cons t ts ih => exact .cons .nil ih

theorem Spread.delimited (h : Spread ts text) (hts : Closing ts) : Delimited text := by
  cases h with
  | nil hg =>
      rw [← List.append_nil text]
      exact hg.delimited nofun
  | @cons g text t ts hg _ =>
      have ht : t.isCloser := hts t rfl
      refine hg.delimited ?_
      cases t with
      | comma | closeBrace | closeBracket => exact delimited_cons rfl _
      | _ => cases ht

theorem piece_blank (hc : Text.isBlank c) (cs : List Char) : piece (c :: cs) = .gap 1 := by
  have hne : c ≠ '/' := by
    rintro rfl
    cases hc
  unfold piece
  split
  case h_1 heq => exact absurd (List.cons.inj heq).1 hne
  case h_2 heq => exact absurd (List.cons.inj heq).1 hne
  case h_3 heq =>
    cases heq
    rw [if_pos hc]
  case h_4 heq => cases heq

theorem piece_line (hbody : '\n' ∉ body) (rest : List Char) :
    piece ('/' :: '/' :: (body ++ '\n' :: rest)) = .gap (body.length + 2) := by
  have hline : lineLength (body ++ '\n' :: rest) = body.length := by
    rw [lineLength, List.takeWhile_append_of_pos, List.takeWhile_cons_of_neg (by simp),
      List.append_nil]
    intro c hc
    simpa using ne_of_mem_of_not_mem hc hbody
  exact congrArg (fun n => Piece.gap (n + 2)) hline

/-- A comment ends with the first mark. -/
theorem blockLength?_eq (hbody : ¬ ['*', '/'] <:+: body) (used : Nat) (rest : List Char) :
    blockLength? used (body ++ '*' :: '/' :: rest) = some (used + body.length + 2) := by
  induction body generalizing used with
  | nil => rfl
  | cons c body ih =>
      rw [List.infix_cons_iff, not_or] at hbody
      rw [List.cons_append, blockLength?, ih hbody.2, List.length_cons]
      · congr 1
        omega
      · intro tail hc htail
        cases body with
        | nil => simp at htail
        | cons c' body =>
            refine hbody.1 ?_
            rw [hc, (List.cons.inj htail).1]
            exact ⟨body, rfl⟩

theorem piece_block (hbody : ¬ ['*', '/'] <:+: body) (rest : List Char) :
    piece ('/' :: '*' :: (body ++ '*' :: '/' :: rest)) = .gap (body.length + 4) := by
  have hlength : 2 + body.length + 2 = body.length + 4 := by omega
  unfold piece
  split
  case h_1 heq => simp at heq
  case h_2 heq =>
    cases heq
    rw [blockLength?_eq hbody, hlength]
  case h_3 hblock heq =>
    cases heq
    exact absurd rfl (hblock _ rfl)
  case h_4 heq => cases heq

/-! ## Scanning -/

theorem scanFrom_skip (done : List (Nat × Token)) (place : Nat) (cs rest : List Char) :
    scanFrom done place cs.length (cs ++ rest) = scanFrom done (place + cs.length) 0 rest := by
  induction cs generalizing place with
  | nil => rfl
  | cons c cs ih =>
      rw [List.length_cons, List.cons_append, scanFrom, ih, Nat.add_right_comm, Nat.add_assoc]

/-- The rest of a piece is passed over. -/
theorem scanFrom_rest (done : List (Nat × Token)) (place : Nat) (c : Char) (cs rest : List Char) :
    scanFrom done (place + 1) ((c :: cs).length - 1) (cs ++ rest)
      = scanFrom done (place + (c :: cs).length) 0 rest := by
  rw [List.length_cons, Nat.add_sub_cancel, scanFrom_skip, Nat.add_right_comm, Nat.add_assoc]

theorem scanFrom_gap {cs rest : List Char} (hcs : cs ≠ [])
    (h : piece (cs ++ rest) = .gap cs.length) (done : List (Nat × Token)) (place : Nat) :
    scanFrom done place 0 (cs ++ rest) = scanFrom done (place + cs.length) 0 rest := by
  obtain ⟨c, cs, rfl⟩ := List.exists_cons_of_ne_nil hcs
  rw [List.cons_append] at h ⊢
  rw [scanFrom, h]
  exact scanFrom_rest done place c cs rest

theorem scanFrom_token {cs rest : List Char} (hcs : cs ≠ [])
    (h : piece (cs ++ rest) = .token t cs.length) (done : List (Nat × Token)) (place : Nat) :
    scanFrom done place 0 (cs ++ rest)
      = scanFrom ((place, t) :: done) (place + cs.length) 0 rest := by
  obtain ⟨c, cs, rfl⟩ := List.exists_cons_of_ne_nil hcs
  rw [List.cons_append] at h ⊢
  rw [scanFrom, h]
  exact scanFrom_rest _ place c cs rest

theorem scanFrom_blank (hc : Text.isBlank c) (done : List (Nat × Token)) (place : Nat)
    (rest : List Char) :
    scanFrom done place 0 (c :: rest) = scanFrom done (place + 1) 0 rest := by
  have hne : [c] ≠ [] := List.cons_ne_nil c []
  exact scanFrom_gap hne (piece_blank hc rest) done place

/-- A gap is passed over. -/
theorem Gap.scanFrom_eq (hg : Gap g) (done : List (Nat × Token)) (place : Nat)
    (rest : List Char) :
    scanFrom done place 0 (g ++ rest) = scanFrom done (place + g.length) 0 rest := by
  induction hg generalizing place with
  | nil => rfl
  | @blank c g hc _ ih =>
      rw [List.cons_append, scanFrom_blank hc, ih, List.length_cons, Nat.add_assoc,
        Nat.add_comm 1]
  | @line body g hbody _ ih =>
      -- The comment ends in front of its line feed, which is a blank.
      have hpiece := piece_line hbody (g ++ rest)
      have htext : '/' :: '/' :: (body ++ '\n' :: g) ++ rest
          = ('/' :: '/' :: body) ++ '\n' :: (g ++ rest) := by simp
      rw [htext, scanFrom_gap (List.cons_ne_nil _ _) (by exact hpiece), scanFrom_blank rfl, ih]
      congr 1
      simp
      omega
  | @block body g hbody _ ih =>
      have hpiece := piece_block hbody (g ++ rest)
      have htext : '/' :: '*' :: (body ++ '*' :: '/' :: g) ++ rest
          = ('/' :: '*' :: (body ++ ['*', '/'])) ++ (g ++ rest) := by simp
      rw [htext, scanFrom_gap (List.cons_ne_nil _ _) (by simpa using hpiece), ih]
      congr 1
      simp
      omega

theorem Token.Legible.spelling_ne_nil (h : t.Legible) : t.spelling ≠ [] := by
  intro hnil
  have hpiece := h [] fun _ => nofun
  rw [hnil] at hpiece
  cases hpiece

theorem Separated.tail (h : Separated (t :: ts)) : Separated ts := by
  cases h with
  | cons _ hts => exact hts

theorem Separated.closing (h : Separated (t :: ts)) (ht : t.isBare) : Closing ts := by
  cases h with
  | cons hclosing _ => exact hclosing ht

/-- The tokens of a text are those that stand in it. -/
theorem Spread.scanFrom_eq (h : Spread ts text) (hs : Separated ts) (hl : ∀ t ∈ ts, t.Legible)
    (done : List (Nat × Token)) (place : Nat) :
    ∃ placed : List (Nat × Token), placed.map Prod.snd = ts ∧
      scanFrom done place 0 text = ⟨done.reverse ++ placed, .text, place + text.length⟩ := by
  induction h generalizing done place with
  | @nil g hg =>
      refine ⟨[], rfl, ?_⟩
      have hscan := hg.scanFrom_eq done place []
      rw [List.append_nil] at hscan
      rw [hscan, scanFrom, List.append_nil]
  | @cons g text t ts hg hts ih =>
      have hlegible := hl t (.head _)
      obtain ⟨placed, hplaced, hscan⟩ := ih hs.tail (fun t' ht' => hl t' (.tail _ ht'))
        ((place + g.length, t) :: done) (place + g.length + t.spelling.length)
      refine ⟨(place + g.length, t) :: placed, by rw [List.map_cons, hplaced], ?_⟩
      rw [hg.scanFrom_eq, scanFrom_token hlegible.spelling_ne_nil
        (hlegible text fun ht => hts.delimited (hs.closing ht)), hscan]
      simp
      omega

/-- Scanning a text gives the tokens that stand in it. -/
theorem scan_spread (h : Spread ts text) (hs : Separated ts) (hl : ∀ t ∈ ts, t.Legible) :
    (scan text).tokens.map Prod.snd = ts ∧ (scan text).stop = .text := by
  obtain ⟨placed, hplaced, hscan⟩ := h.scanFrom_eq hs hl [] 0
  rw [scan, hscan]
  exact ⟨hplaced, rfl⟩

/-! ## Tokens that the scanner knows -/

/-- The numbers of the blanks. -/
def blankNumbers : List Nat :=
  [9, 10, 11, 12, 13, 0x20, 0x85, 0xA0, 0x1680, 0x2000, 0x2001, 0x2002, 0x2003, 0x2004, 0x2005,
    0x2006, 0x2007, 0x2008, 0x2009, 0x200A, 0x2028, 0x2029, 0x202F, 0x205F, 0x3000]

theorem mem_blankNumbers (hc : Text.isBlank c) : c.toNat ∈ blankNumbers := by
  simp only [Text.isBlank, Bool.or_eq_true, Bool.and_eq_true, decide_eq_true_eq,
    beq_iff_eq] at hc
  simp only [blankNumbers, List.mem_cons, List.not_mem_nil, or_false]
  omega

theorem isAlphanumeric_blankNumbers :
    ∀ n ∈ blankNumbers, Text.isAlphanumeric (Char.ofNat n) = false := by
  decide +kernel

theorem isAlphanumeric_of_isBlank (hc : Text.isBlank c) : Text.isAlphanumeric c = false := by
  have hn := isAlphanumeric_blankNumbers _ (mem_blankNumbers hc)
  rwa [Char.ofNat_toNat] at hn

theorem isAlphanumeric_of_isDelimiter (hc : isDelimiter c) : Text.isAlphanumeric c = false := by
  simp only [isDelimiter, Bool.or_eq_true, beq_iff_eq] at hc
  obtain (((hblank | rfl) | rfl) | rfl) | rfl := hc
  · exact isAlphanumeric_of_isBlank hblank
  all_goals rfl

/-- A name is known in front of a delimiter. -/
theorem startsWithName_append (name : List Char) (h : Delimited rest) :
    startsWithName name (name ++ rest) = true := by
  rw [startsWithName, Text.matchToken?_eq_some_iff.2 rfl]
  cases rest with
  | nil => rfl
  | cons c rest =>
      have hc := isAlphanumeric_of_isDelimiter (h c rfl)
      simp [hc]

theorem legible_mark (ht : t ∈ [Token.openBrace, .closeBrace, .openBracket, .closeBracket,
    .comma, .colon]) : t.Legible := by
  intro rest _
  simp only [List.mem_cons, List.not_mem_nil, or_false] at ht
  obtain rfl | rfl | rfl | rfl | rfl | rfl := ht <;> rfl

/-- What stands at the front of a text that begins with what is no blank and no comment. -/
def pieceOfToken : Found Token → Piece
  | .some t used => .token t used
  | .fault f offset => .fault f offset

theorem legible_string (s : List Char) : (Token.string s).Legible := by
  intro rest _
  have htext : (Token.string s).spelling ++ rest
      = '"' :: (s.flatMap escapeChar ++ '"' :: rest) := by
    simp [Token.spelling, quote]
  have hpiece : ∀ cs, piece ('"' :: cs)
      = pieceOfToken (token.ofText (scanText '"' 1 [] .plain cs)) := fun _ => rfl
  rw [htext, hpiece, scanText_flatMap_escapeChar]
  simp [pieceOfToken, token.ofText, Token.spelling, quote]
  omega

/-- What the scanner takes for the token at the front of a text that begins with a letter. -/
def nameOrWord (text : List Char) : Found Token :=
  if startsWithName ['t', 'r', 'u', 'e'] text then .some (.bool true) 4
  else if startsWithName ['f', 'a', 'l', 's', 'e'] text then .some (.bool false) 5
  else if startsWithName ['n', 'u', 'l', 'l'] text then .some .null 4
  else wordToken text

theorem legible_bool (b : Bool) : (Token.bool b).Legible := by
  intro rest h
  cases b with
  | true =>
      have hname := startsWithName_append ['t', 'r', 'u', 'e'] (h rfl)
      have hpiece : piece (['t', 'r', 'u', 'e'] ++ rest)
          = pieceOfToken (nameOrWord (['t', 'r', 'u', 'e'] ++ rest)) := rfl
      refine hpiece.trans ?_
      rw [nameOrWord, if_pos hname]
      rfl
  | false =>
      have hname := startsWithName_append ['f', 'a', 'l', 's', 'e'] (h rfl)
      have hpiece : piece (['f', 'a', 'l', 's', 'e'] ++ rest)
          = pieceOfToken (nameOrWord (['f', 'a', 'l', 's', 'e'] ++ rest)) := rfl
      refine hpiece.trans ?_
      rw [nameOrWord, if_neg (by exact Bool.false_ne_true), if_pos hname]
      rfl

theorem legible_null : Token.null.Legible := by
  intro rest h
  have hname := startsWithName_append ['n', 'u', 'l', 'l'] (h rfl)
  have hpiece : piece (['n', 'u', 'l', 'l'] ++ rest)
      = pieceOfToken (nameOrWord (['n', 'u', 'l', 'l'] ++ rest)) := rfl
  refine hpiece.trans ?_
  rw [nameOrWord, if_neg (by exact Bool.false_ne_true), if_neg (by exact Bool.false_ne_true),
    if_pos hname]
  rfl

end PerlLint.Json
