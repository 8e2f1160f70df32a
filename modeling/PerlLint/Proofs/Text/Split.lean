import Mathlib.Data.List.Infix
import Mathlib.Data.List.Zip
import PerlLint.Text.Basic

/-!
# Where a text is split

A scan from the left finds a token where it occurs first.  `FirstAfter tok p` says that this is
after `p` if the token follows `p`: the token is not in `p`, and does not begin in `p` either
(`firstAfter_of_border`).  `Pieces` are what is between the tokens that a scan finds, and
`splitOn_eq_iff` says that `splitOn` gives them.  A token of one character does not overlap with
itself, so the text may be cut at any of them (`splitOn_append_cons`).

A token is not found any earlier or later when characters come after the text that are not in
the token (`Pieces.append`, `eraseFirst_append`).  Pieces in front stay what they are
(`Pieces.prepend`), and the beginning of a text has no more pieces than the text
(`Pieces.length_le`).
-/

namespace PerlLint.Text

variable {tok sep p q s cs piece : List Char} {done ps : List (List Char)} {c : Char}

/-! ## The first occurrence of a token -/

/-- After `p` the token occurs for the first time. -/
def FirstAfter (tok p : List Char) : Prop := ∀ q, q ++ tok <+: p ++ tok → q = p

theorem firstAfter_nil (tok : List Char) : FirstAfter tok [] := by
  intro q h
  have hlen := h.length_le
  rw [List.length_append, List.length_append] at hlen
  have hq : q.length = 0 := by
    rw [List.length_nil] at hlen
    omega
  exact List.length_eq_zero_iff.1 hq

theorem FirstAfter.of_cons (h : FirstAfter tok (c :: p)) : FirstAfter tok p := by
  intro q hq
  exact (List.cons.inj (h (c :: q) (List.cons_prefix_cons.2 ⟨rfl, hq⟩))).2

/-- The token does not stand at the front if something comes before it. -/
theorem FirstAfter.not_in_front (h : FirstAfter tok (c :: p)) (s : List Char) :
    ¬ tok <+: c :: p ++ (tok ++ s) := by
  intro hpre
  rw [← List.append_assoc] at hpre
  have hshort := List.prefix_of_prefix_length_le hpre (List.prefix_append (c :: p ++ tok) s)
    (by simp; omega)
  exact List.cons_ne_nil c p (h [] hshort).symm

theorem FirstAfter.cons (h : FirstAfter tok p) (hc : ¬ tok <+: c :: p ++ tok) :
    FirstAfter tok (c :: p) := by
  intro q hq
  cases q with
  | nil => exact absurd hq hc
  | cons d q =>
      rw [List.cons_append, List.cons_append, List.cons_prefix_cons] at hq
      rw [hq.1, h q hq.2]

/-- The token is not in what stands before its first occurrence. -/
theorem FirstAfter.not_infix (htok : tok ≠ []) (h : FirstAfter tok p) : ¬ tok <:+: p := by
  rintro ⟨q, r, hp⟩
  have hq : q = p := by
    apply h q
    rw [← hp, List.append_assoc (q ++ tok)]
    exact List.prefix_append (q ++ tok) (r ++ tok)
  have hlen := congrArg List.length hp
  have hpos := List.length_pos_iff.2 htok
  rw [hq] at hlen
  simp only [List.length_append] at hlen
  omega

/-- A text that ends before its first token does has no token. -/
theorem FirstAfter.not_infix_of_isPrefix (h : FirstAfter tok p) (hs : s <+: p ++ tok)
    (hne : s ≠ p ++ tok) : ¬ tok <:+: s := by
  rintro ⟨q, r, rfl⟩
  obtain rfl : q = p := h q ((List.prefix_append (q ++ tok) r).trans hs)
  exact hne (hs.eq_of_length_le (by simp))

/-- A token occurs for the first time somewhere, if it occurs. -/
theorem exists_firstAfter (h : tok <:+: s) :
    ∃ p rest, s = p ++ (tok ++ rest) ∧ FirstAfter tok p := by
  induction s with
  | nil =>
      have htok := List.infix_nil.1 h
      exact ⟨[], [], by simp [htok], firstAfter_nil tok⟩
  | cons c s ih =>
      by_cases hc : tok <+: c :: s
      · obtain ⟨rest, hrest⟩ := hc
        exact ⟨[], rest, hrest.symm, firstAfter_nil tok⟩
      · have hs := (List.infix_cons_iff.1 h).resolve_left hc
        obtain ⟨p, rest, rfl, hp⟩ := ih hs
        refine ⟨c :: p, rest, rfl, hp.cons fun hpre => hc ?_⟩
        exact hpre.trans ⟨rest, by simp⟩

/-- The token occurs first after `p` if it is not in `p`, and if `p` does not end in what the
token can be cut off after to begin again. -/
theorem firstAfter_of_border (border : List Char) (h : ¬ tok <:+: p)
    (hborder : ∀ cut ∈ tok.inits.zip tok.tails,
      cut.1 ≠ [] → cut.2 ≠ [] → cut.2 <+: tok → cut.1 = border)
    (hback : ¬ border <:+ p) : FirstAfter tok p := by
  rintro q ⟨r, hr⟩
  rw [List.append_assoc] at hr
  obtain ⟨u, rfl, htok⟩ | ⟨u, rfl, htok⟩ := List.append_eq_append_iff.1 hr
  · obtain ⟨v, rfl, -⟩ | ⟨v, htok', hv⟩ := List.append_eq_append_iff.1 htok
    · exact absurd ⟨q, v, by simp⟩ h
    · by_cases hu : u = []
      · simp [hu]
      · exfalso
        by_cases hv' : v = []
        · subst hv'
          rw [List.append_nil] at htok'
          exact h (htok' ▸ List.infix_append_right)
        · have hcut := List.mem_zip_inits_tails.2 htok'.symm
          exact hback (hborder _ hcut hu hv' ⟨r, hv.symm⟩ ▸ List.suffix_append q u)
  · have hlen := congrArg List.length htok
    simp only [List.length_append] at hlen
    have hu : u = [] := List.length_eq_zero_iff.1 (by omega)
    simp [hu]

/-! ## Splitting -/

theorem matchToken?_eq_some_iff {rest : List Char} :
    matchToken? tok s = some rest ↔ s = tok ++ rest := by
  induction tok generalizing s with
  | nil => simp [matchToken?]
  | cons t tok ih =>
      cases s with
      | nil => simp [matchToken?]
      | cons c s =>
          rw [matchToken?]
          split
          case isTrue hc => simp [hc, ih]
          case isFalse hc => simp [hc]

theorem isSome_matchToken?_iff : (matchToken? tok s).isSome ↔ tok <+: s := by
  rw [Option.isSome_iff_exists]
  exact exists_congr fun rest => matchToken?_eq_some_iff.trans eq_comm

/-- What a scan from the left finds between the tokens. -/
inductive Pieces (sep : List Char) : List Char → List (List Char) → Prop where
  | last {s : List Char} :
    ¬ sep <:+: s →
    Pieces sep s [s]
  | cut {p s : List Char} {ps : List (List Char)} :
    FirstAfter sep p →
    Pieces sep s ps →
    Pieces sep (p ++ (sep ++ s)) (p :: ps)

theorem splitFrom_of_absent (h : ¬ sep <:+: s) (done : List (List Char)) (piece : List Char) :
    splitFrom sep done piece 0 s = done.reverse ++ [piece.reverse ++ s] := by
  induction s generalizing piece with
  | nil => simp [splitFrom]
  | cons c s ih =>
      rw [List.infix_cons_iff, not_or, ← isSome_matchToken?_iff] at h
      rw [splitFrom, if_neg h.1, ih h.2]
      simp

theorem splitFrom_skip (done : List (List Char)) (piece p s : List Char) :
    splitFrom sep done piece p.length (p ++ s) = splitFrom sep done piece 0 s := by
  induction p with
  | nil => rfl
  | cons c p ih => exact ih

theorem splitFrom_of_firstAfter (hsep : sep ≠ []) (h : FirstAfter sep p) (done : List (List Char))
    (piece s : List Char) :
    splitFrom sep done piece 0 (p ++ (sep ++ s))
      = splitFrom sep ((piece.reverse ++ p) :: done) [] 0 s := by
  induction p generalizing piece with
  | nil =>
      obtain ⟨t, ts, rfl⟩ := List.exists_cons_of_ne_nil hsep
      have hfound : (matchToken? (t :: ts) (t :: (ts ++ s))).isSome :=
        isSome_matchToken?_iff.2 ⟨s, rfl⟩
      rw [List.nil_append, List.cons_append, splitFrom, if_pos hfound, List.append_nil]
      exact splitFrom_skip _ [] ts s
  | cons c p ih =>
      have hnot := h.not_in_front s
      rw [← isSome_matchToken?_iff, List.cons_append] at hnot
      rw [List.cons_append, splitFrom, if_neg hnot, ih h.of_cons]
      simp

theorem splitFrom_of_pieces (hsep : sep ≠ []) (h : Pieces sep s ps) (done : List (List Char)) :
    splitFrom sep done [] 0 s = done.reverse ++ ps := by
  induction h generalizing done with
  | last hs => exact splitFrom_of_absent hs done []
  | cut hp _ ih => simp [splitFrom_of_firstAfter hsep hp, ih]

/-- Every text has pieces. -/
theorem exists_pieces (hsep : sep ≠ []) (s : List Char) : ∃ ps, Pieces sep s ps := by
  induction hn : s.length using Nat.strongRecOn generalizing s with
  | ind n ih =>
      by_cases h : sep <:+: s
      · obtain ⟨p, rest, rfl, hp⟩ := exists_firstAfter h
        have hpos := List.length_pos_iff.2 hsep
        obtain ⟨ps, hps⟩ := ih rest.length (by simp at hn; omega) rest rfl
        exact ⟨p :: ps, .cut hp hps⟩
      · exact ⟨[s], .last h⟩

/-- Splitting gives the pieces. -/
theorem splitOn_eq_iff (hsep : sep ≠ []) : splitOn sep s = ps ↔ Pieces sep s ps := by
  constructor
  · rintro rfl
    obtain ⟨ps, hps⟩ := exists_pieces hsep s
    have hsplit : splitOn sep s = ps := splitFrom_of_pieces hsep hps []
    exact hsplit ▸ hps
  · exact fun h => splitFrom_of_pieces hsep h []

/-- The leftmost occurrence wins and its characters are not counted again. -/
example : splitOn ['~', '~'] ['~', '~', '~'] = [[], ['~']] := by decide

/-- Texts with the token between them are pieces, if a scan finds just these tokens. -/
theorem pieces_joinWith (ps : List (List Char)) {last : List Char}
    (h : ∀ p ∈ ps, FirstAfter sep p) (hlast : ¬ sep <:+: last) :
    Pieces sep (joinWith sep (ps ++ [last])) (ps ++ [last]) := by
  induction ps with
  | nil => exact .last hlast
  | cons p ps ih =>
      have hcut := Pieces.cut (h p (.head _)) (ih fun q hq => h q (.tail _ hq))
      cases ps <;> simpa [joinWith] using hcut

theorem Pieces.joinWith_eq (h : Pieces sep s ps) : joinWith sep ps = s := by
  induction h with
  | last _ => rfl
  | @cut p s ps _ hps ih =>
      cases hps with
      | last _ => simp [joinWith]
      | cut _ _ =>
          rw [joinWith, ih, List.append_assoc]

theorem Pieces.not_infix (hsep : sep ≠ []) (h : Pieces sep s ps) : ∀ p ∈ ps, ¬ sep <:+: p := by
  induction h with
  | last hs =>
      intro p hp
      rwa [List.mem_singleton.1 hp]
  | cut hfirst _ ih =>
      intro p hp
      cases hp with
      | head _ => exact hfirst.not_infix hsep
      | tail _ hp => exact ih p hp

theorem Pieces.ne_nil (h : Pieces sep s ps) : ps ≠ [] := by
  cases h with
  | last _ => exact List.cons_ne_nil _ _
  | cut _ _ => exact List.cons_ne_nil _ _

theorem Pieces.firstAfter (h : Pieces sep s ps) : ∀ p ∈ ps.dropLast, FirstAfter sep p := by
  induction h with
  | last _ =>
      intro p hp
      cases hp
  | @cut p s ps hfirst hps ih =>
      intro q hq
      rw [List.dropLast_cons_of_ne_nil hps.ne_nil] at hq
      cases hq with
      | head _ => exact hfirst
      | tail _ hq => exact ih q hq

/-- A text is cut in one way. -/
theorem Pieces.unique (hsep : sep ≠ []) (h : Pieces sep s ps) {qs : List (List Char)}
    (hqs : Pieces sep s qs) : ps = qs := by
  rw [← (splitOn_eq_iff hsep).2 h, (splitOn_eq_iff hsep).2 hqs]

/-- Pieces may be put in front if a scan finds the tokens after them. -/
theorem Pieces.prepend (h : Pieces sep s ps) {front : List (List Char)}
    (hfront : ∀ p ∈ front, FirstAfter sep p) :
    Pieces sep (front.flatMap (· ++ sep) ++ s) (front ++ ps) := by
  induction front with
  | nil => exact h
  | cons p front ih =>
      obtain ⟨hp, hrest⟩ := List.forall_mem_cons.1 hfront
      simpa using Pieces.cut hp (ih hrest)

/-- A text has no fewer pieces than a part at its front. -/
theorem Pieces.length_le (hsep : sep ≠ []) (h : Pieces sep s ps) {qs : List (List Char)}
    (hqs : Pieces sep (s ++ cs) qs) : ps.length ≤ qs.length := by
  induction h generalizing qs with
  | last _ => exact List.length_pos_iff.2 hqs.ne_nil
  | @cut p s ps hp _ ih =>
      -- A scan of the longer text finds the same token first.
      obtain ⟨rest, hrest⟩ := exists_pieces hsep (s ++ cs)
      have hcut : Pieces sep (p ++ (sep ++ s) ++ cs) (p :: rest) := by
        simpa using Pieces.cut hp hrest
      rw [hqs.unique hsep hcut]
      exact Nat.succ_le_succ (ih hrest)

/-- Each character of a piece is one of the text. -/
theorem Pieces.subset (h : Pieces sep s ps) : ∀ p ∈ ps, p ⊆ s := by
  induction h with
  | last _ =>
      intro p hp
      rw [List.mem_singleton.1 hp]
      exact List.Subset.refl _
  | @cut p s ps _ _ ih =>
      intro q hq
      cases hq with
      | head _ => exact List.subset_append_left p (sep ++ s)
      | tail _ hq =>
          intro c hc
          exact List.mem_append_right p (List.mem_append_right sep (ih q hq hc))

theorem mem_joinWith (h : c ∈ joinWith sep ps) : c ∈ sep ∨ ∃ p ∈ ps, c ∈ p := by
  induction ps with
  | nil => simp [joinWith] at h
  | cons p ps ih =>
      cases ps with
      | nil => exact .inr ⟨p, .head _, h⟩
      | cons q ps =>
          rw [joinWith, List.append_assoc, List.mem_append, List.mem_append] at h
          rcases h with h | h | h
          · exact .inr ⟨p, .head _, h⟩
          · exact .inl h
          · exact (ih h).imp_right fun ⟨q', hq', hc⟩ => ⟨q', .tail _ hq', hc⟩

theorem joinWith_cons (sep p : List Char) (ps : List (List Char)) :
    joinWith sep (p :: ps) = p ++ ps.flatMap (sep ++ ·) := by
  induction ps generalizing p with
  | nil => simp [joinWith]
  | cons q ps ih => rw [joinWith, ih, List.flatMap_cons, List.append_assoc, List.append_assoc]

/-- What is in front of the last pieces ends with the token. -/
theorem joinWith_append (hps : ps ≠ []) (front : List (List Char)) :
    joinWith sep (front ++ ps) = front.flatMap (· ++ sep) ++ joinWith sep ps := by
  induction front with
  | nil => rfl
  | cons p front ih =>
      obtain ⟨q, qs, hq⟩ := List.exists_cons_of_ne_nil (List.append_ne_nil_of_right_ne_nil front hps)
      rw [List.cons_append, hq, joinWith, ← hq, ih, List.flatMap_cons]
      simp only [List.append_assoc]

/-! ## Splitting at a character -/

/-- A character that is not in the text is found first behind it. -/
theorem firstAfter_singleton (h : c ∉ p) : FirstAfter [c] p := by
  induction p with
  | nil => exact firstAfter_nil [c]
  | cons d p ih =>
      obtain ⟨hd, hp⟩ : c ≠ d ∧ c ∉ p := by simpa using h
      refine (ih hp).cons fun hpre => hd ?_
      rw [List.cons_append, List.cons_prefix_cons] at hpre
      exact hpre.1

theorem splitOn_of_not_mem (h : c ∉ s) : splitOn [c] s = [s] :=
  (splitOn_eq_iff (List.cons_ne_nil c [])).2 (.last (mt (List.singleton_infix_iff c s).1 h))

/-- At a character a text may be cut, and the parts have the pieces of the whole. -/
theorem Pieces.concat (h : Pieces [c] s ps) {t : List Char} {qs : List (List Char)}
    (hqs : Pieces [c] t qs) : Pieces [c] (s ++ c :: t) (ps ++ qs) := by
  induction h with
  | @last s hs => exact .cut (firstAfter_singleton (mt (List.singleton_infix_iff c s).2 hs)) hqs
  | @cut p s ps hp _ ih => simpa using Pieces.cut hp ih

theorem splitOn_append_cons (c : Char) (s t : List Char) :
    splitOn [c] (s ++ c :: t) = splitOn [c] s ++ splitOn [c] t := by
  have hsep : [c] ≠ [] := List.cons_ne_nil c []
  rw [splitOn_eq_iff hsep]
  exact ((splitOn_eq_iff hsep).1 rfl).concat ((splitOn_eq_iff hsep).1 rfl)

theorem not_mem_of_mem_splitOn (h : p ∈ splitOn [c] s) : c ∉ p := by
  have hsep : [c] ≠ [] := List.cons_ne_nil c []
  have hpieces : Pieces [c] s (splitOn [c] s) := (splitOn_eq_iff hsep).1 rfl
  rw [← List.singleton_infix_iff]
  exact hpieces.not_infix hsep p h

theorem joinWith_splitOn (hsep : sep ≠ []) (s : List Char) : joinWith sep (splitOn sep s) = s :=
  ((splitOn_eq_iff hsep).1 rfl).joinWith_eq

/-! ## Erasing -/

theorem eraseFrom_of_absent (h : ¬ tok <:+: s) (acc : List Char) :
    eraseFrom tok acc s = acc.reverse ++ s := by
  induction s generalizing acc with
  | nil => simp [eraseFrom]
  | cons c s ih =>
      rw [List.infix_cons_iff, not_or, ← isSome_matchToken?_iff, Option.not_isSome_iff_eq_none] at h
      rw [eraseFrom, h.1]
      dsimp only
      rw [ih h.2]
      simp

theorem eraseFrom_of_firstAfter (h : FirstAfter tok p) (acc s : List Char) (htok : tok ≠ []) :
    eraseFrom tok acc (p ++ (tok ++ s)) = acc.reverse ++ (p ++ s) := by
  induction p generalizing acc with
  | nil =>
      obtain ⟨t, ts, rfl⟩ := List.exists_cons_of_ne_nil htok
      have hfound : matchToken? (t :: ts) (t :: (ts ++ s)) = some s :=
        matchToken?_eq_some_iff.2 rfl
      rw [List.nil_append, List.cons_append, eraseFrom, hfound]
      simp [List.reverseAux_eq]
  | cons c p ih =>
      have hnot := h.not_in_front s
      rw [← isSome_matchToken?_iff, Option.not_isSome_iff_eq_none] at hnot
      rw [List.cons_append] at hnot ⊢
      rw [eraseFrom, hnot]
      dsimp only
      rw [ih h.of_cons]
      simp

theorem eraseFirst_of_absent (h : ¬ tok <:+: s) : eraseFirst tok s = s :=
  eraseFrom_of_absent h []

theorem eraseFirst_of_firstAfter (htok : tok ≠ []) (h : FirstAfter tok p) (s : List Char) :
    eraseFirst tok (p ++ (tok ++ s)) = p ++ s :=
  eraseFrom_of_firstAfter h [] s htok

/-- Only the first part loses something if the token is in it. -/
theorem eraseFirst_append_of_infix (htok : tok ≠ []) (h : tok <:+: s) (cs : List Char) :
    eraseFirst tok (s ++ cs) = eraseFirst tok s ++ cs := by
  obtain ⟨p, rest, rfl, hp⟩ := exists_firstAfter h
  rw [eraseFirst_of_firstAfter htok hp, List.append_assoc, List.append_assoc,
    eraseFirst_of_firstAfter htok hp, List.append_assoc]

theorem eraseFirst_subset (htok : tok ≠ []) (s : List Char) : eraseFirst tok s ⊆ s := by
  by_cases hs : tok <:+: s
  · obtain ⟨p, rest, rfl, hp⟩ := exists_firstAfter hs
    rw [eraseFirst_of_firstAfter htok hp]
    intro c hc
    rcases List.mem_append.1 hc with hc | hc
    · exact List.mem_append_left _ hc
    · exact List.mem_append_right _ (List.mem_append_right _ hc)
  · rw [eraseFirst_of_absent hs]
    exact List.Subset.refl s

/-! ## Characters after the text -/

section After

/-- A token does not reach into characters that it has not. -/
theorem infix_append_iff_of_not_mem (htok : tok ≠ []) (hcs : ∀ c ∈ cs, c ∉ tok) (s : List Char) :
    tok <:+: s ++ cs ↔ tok <:+: s := by
  rw [List.infix_append_iff_ne_nil]
  constructor
  · rintro (h | h | ⟨u, v, -, hv, rfl, -, hpre⟩)
    · exact h
    · obtain ⟨t, ts, rfl⟩ := List.exists_cons_of_ne_nil htok
      exact absurd (.head _) (hcs t (h.subset (.head _)))
    · obtain ⟨t, ts, rfl⟩ := List.exists_cons_of_ne_nil hv
      exact absurd (by simp) (hcs t (hpre.subset (.head _)))
  · exact .inl

/-- They go to the last piece. -/
theorem Pieces.append (hsep : sep ≠ []) (hcs : ∀ c ∈ cs, c ∉ sep) (h : Pieces sep s ps) :
    ∃ init last, ps = init ++ [last] ∧ Pieces sep (s ++ cs) (init ++ [last ++ cs]) := by
  induction h with
  | @last s hs =>
      exact ⟨[], s, rfl, .last (mt (infix_append_iff_of_not_mem hsep hcs s).1 hs)⟩
  | @cut p s ps hp _ ih =>
      obtain ⟨init, last, rfl, h⟩ := ih
      exact ⟨p :: init, last, rfl, by simpa using Pieces.cut hp h⟩

theorem eraseFirst_append (htok : tok ≠ []) (hcs : ∀ c ∈ cs, c ∉ tok) (s : List Char) :
    eraseFirst tok (s ++ cs) = eraseFirst tok s ++ cs := by
  by_cases h : tok <:+: s
  · exact eraseFirst_append_of_infix htok h cs
  · rw [eraseFirst_of_absent h,
      eraseFirst_of_absent (mt (infix_append_iff_of_not_mem htok hcs s).1 h)]

end After

end PerlLint.Text
