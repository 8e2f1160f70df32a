import PerlLint.Proofs.Record.Grammar

/-!
# The end marker

A record ends with the end marker, but what the reader takes out of a line is the first end marker
that it finds.  If a text holds a marker itself, or begins one at its end, the wrong one goes: the
characters of the text are pushed together where it was, and the marker at the end stays in the
policy.

`keepsFields_iff` says for which texts this makes no difference.  Taking out the first marker is
taking out the last one if all markers stand in a row at the end (`MarkersLast`).  In any other
text with six fields the policy changes: if it did not, the text in front of the last field would
have moved through markers only, and a separator would be made of markers
(`not_separator_of_shift`).
-/

namespace PerlLint

namespace Text

variable {tok y z : List Char}

/-! ## Texts that a token moves through -/

/-- A text with the same text in front of it as with the token after it is the token some times,
after the end of one. -/
@[elab_as_elim]
theorem shift_induction {P : List Char → Prop} (htok : tok ≠ [])
    (part : ∀ z, z.length < tok.length → z <:+ tok → y ++ z = z ++ tok → P z)
    (more : ∀ z, y ++ z = z ++ tok → P z → P (z ++ tok)) (z : List Char)
    (h : y ++ z = z ++ tok) : P z := by
  induction hn : z.length using Nat.strongRecOn generalizing z with
  | ind n ih =>
      have hback : z <:+ z ++ tok := ⟨y, h⟩
      have htail : tok <:+ z ++ tok := List.suffix_append z tok
      by_cases hlen : tok.length ≤ z.length
      · obtain ⟨x, rfl⟩ := List.suffix_of_suffix_length_le htail hback hlen
        have hx : y ++ x = x ++ tok := by
          rw [← List.append_assoc] at h
          exact List.append_cancel_right h
        have hpos := List.length_pos_iff.2 htok
        exact more x hx (ih x.length (by simp at hn; omega) x hx rfl)
      · have hshort := List.suffix_of_suffix_length_le hback htail (by omega)
        exact part z (by omega) hshort h

end Text

namespace Record

variable {b line p rest x x' y z f : List Char}

/-! ## Markers at the end -/

/-- Markers stand only at the end of the text, in a row. -/
inductive MarkersLast : List Char → Prop where
  | none {b : List Char} :
    Text.FirstAfter markerChars b →
    MarkersLast b
  | more {b : List Char} :
    MarkersLast b →
    MarkersLast (b ++ markerChars)

/-- With a marker after it, such a text loses the one that was put there. -/
theorem MarkersLast.eraseFirst_eq (h : MarkersLast b) :
    Text.eraseFirst markerChars (b ++ markerChars) = b := by
  have hmarker : markerChars ≠ [] := by decide
  induction h with
  | none hb => simpa using Text.eraseFirst_of_firstAfter hmarker hb []
  | more _ ih =>
      rw [Text.eraseFirst_append_of_infix hmarker (List.suffix_append _ _).isInfix, ih]

/-- After the first marker there are only markers if the marker moves through the rest. -/
theorem MarkersLast.of_shift (hp : Text.FirstAfter markerChars p)
    (h : markerChars ++ rest = rest ++ markerChars) : MarkersLast (p ++ rest) := by
  refine Text.shift_induction (by decide) ?part ?more rest h
  case part =>
    intro z hshort hz h
    have hends : ∀ z ∈ markerChars.tails, z.length < markerChars.length →
        markerChars ++ z = z ++ markerChars → z = [] := by decide
    rw [hends z ((List.mem_tails z markerChars).2 hz) hshort h, List.append_nil]
    exact .none hp
  case more =>
    intro z _ ih
    rw [← List.append_assoc]
    exact ih.more

/-- No separator is made of markers. -/
theorem not_separator_of_shift (h : y ++ z = z ++ markerChars) : ¬ separatorChars <:+: z := by
  refine Text.shift_induction (by decide) ?part ?more z h
  case part =>
    intro z _ hz _ hsep
    exact absurd (hsep.trans hz.isInfix) (by decide)
  case more =>
    intro z h ih hsep
    rcases List.infix_append_iff_ne_nil.1 hsep with hsep | hsep | ⟨u, v, hu, hv, heq, hsuf, hpre⟩
    · exact ih hsep
    · exact absurd hsep (by decide)
    · -- A separator that ends in the marker ends in its first character, so the text in front of
      -- the marker ends in `|`.  But it ends like the marker, too.
      have hcuts : ∀ cut ∈ separatorChars.inits.zip separatorChars.tails,
          cut.1 ≠ [] → cut.2 ≠ [] → cut.2 <+: markerChars → cut.1 = ['~', '|'] := by decide
      have hu' : u = ['~', '|'] := hcuts (u, v) (List.mem_zip_inits_tails.2 heq.symm) hu hv hpre
      obtain ⟨w, rfl⟩ := hu' ▸ hsuf
      have hlast := congrArg List.getLast? h
      simp [markerChars] at hlast

/-- If the last field is still the last one when the first marker is taken out, there are only
markers at the end. -/
theorem markersLast_of_last (hb : b = x ++ (separatorChars ++ f))
    (herased : Text.eraseFirst markerChars (b ++ markerChars) = x' ++ (separatorChars ++ f)) :
    MarkersLast b := by
  have hmarker : markerChars ≠ [] := by decide
  obtain ⟨p, rest, hcut, hp⟩ :=
    Text.exists_firstAfter (List.suffix_append b markerChars).isInfix
  rw [hcut, Text.eraseFirst_of_firstAfter hmarker hp] at herased
  rcases List.append_eq_append_iff.1 herased with ⟨a, rfl, rfl⟩ | ⟨a, rfl, ha⟩
  · -- The last field stands behind the first marker, so one marker has moved through it.
    exfalso
    have hcut' : x ++ (separatorChars ++ f ++ markerChars)
        = p ++ (markerChars ++ a) ++ (separatorChars ++ f) := by
      simpa [hb] using hcut
    rcases List.append_eq_append_iff.1 hcut' with ⟨y, -, hy⟩ | ⟨y, -, hy⟩
    · exact not_separator_of_shift hy.symm (List.prefix_append separatorChars f).isInfix
    · have hlen := congrArg List.length hy
      simp [markerChars] at hlen
      omega
  · -- The first marker stands in the last field.
    have hcut' : x ++ (a ++ (rest ++ markerChars)) = x' ++ (a ++ (markerChars ++ rest)) := by
      rw [hb, ha] at hcut
      simpa using hcut
    have hlen : x.length = x'.length := by
      have hlen := congrArg List.length hcut'
      simp only [List.length_append] at hlen
      omega
    obtain ⟨rfl, hshift⟩ := List.append_inj hcut' hlen
    rw [hb, ha, ← List.append_assoc]
    exact .of_shift hp (List.append_cancel_left hshift).symm

/-! ## Reading a text with the marker after it -/

/-- The line of a text has the end marker after it, and then maybe a carriage return. -/
inductive Closed (b : List Char) : List Char → Prop where
  | marker : Closed b (b ++ markerChars)
  | returned : Closed b (b ++ markerChars ++ ['\r'])

theorem Closed.body_eq (h : Closed b line) :
    body line = Text.eraseFirst markerChars (b ++ markerChars) := by
  cases h with
  | marker =>
      have hlast : (b ++ markerChars).getLast? ≠ some '\r' := by simp [markerChars]
      rw [body, Text.dropOneEnd_of_ne hlast]
  | returned => rw [body, Text.dropOneEnd_append_singleton]

theorem isSome_ofLine?_iff : (ofLine? line).isSome ↔ ∃ fs, SixFields (body line) fs := by
  rw [ofLine?, isSome_ofFields?_iff]
  constructor
  · exact fun hcount => ⟨_, sixFields_iff.2 ⟨(Text.splitOn_eq_iff (by decide)).1 rfl, hcount⟩⟩
  · rintro ⟨fs, h⟩
    rw [h.splitOn_eq]
    exact h.count

theorem SixFields.exists_eq {fs : List (List Char)} (h : SixFields b fs) :
    ∃ s l c m e p, fs = [s, l, c, m, e, p] := by
  match fs, h.count with
  | [s, l, c, m, e, p], _ => exact ⟨s, l, c, m, e, p, rfl⟩

section Fields

variable {s l c m e p : List Char}

theorem SixFields.ofLine?_eq (h : SixFields (body line) [s, l, c, m, e, p]) :
    ofLine? line = some ⟨Text.leadingInt? s, Text.leadingInt? l, Text.leadingInt? c,
      String.ofList m, String.ofList e, String.ofList p⟩ := by
  rw [ofLine?, h.splitOn_eq, ofFields?]

/-- The last field stands behind a separator. -/
theorem SixFields.exists_eq_append (h : SixFields b [s, l, c, m, e, p]) :
    ∃ x, b = x ++ (separatorChars ++ p) := by
  refine ⟨Text.joinWith separatorChars [s, l, c, m, e], ?_⟩
  rw [← h.join]
  simp [Text.joinWith]

end Fields

/-- A text is read as it is when the end marker is put after it: there is a record if the text has
six fields, and the texts of the record are the last three of them. -/
structure KeepsFields (b : List Char) : Prop where
  isSome : ∀ line, Closed b line → ((ofLine? line).isSome ↔ ∃ fs, SixFields b fs)
  texts : ∀ line, Closed b line → ∀ s l c m e p, SixFields b [s, l, c, m, e, p] →
    ∃ r, ofLine? line = some r ∧ r.message = String.ofList m ∧
      r.explanation = String.ofList e ∧ r.policy = String.ofList p

/-- If the policy of a text with six fields is read as it is, the text has markers only at its
end. -/
theorem KeepsFields.markersLast (h : KeepsFields b) (hb : ∃ fs, SixFields b fs) :
    MarkersLast b := by
  obtain ⟨fs, hb⟩ := hb
  obtain ⟨s, l, c, m, e, p, rfl⟩ := hb.exists_eq
  obtain ⟨r, hr, -, -, hpolicy⟩ := h.texts _ .marker s l c m e p hb
  obtain ⟨fs', hbody⟩ := isSome_ofLine?_iff.1 (Option.isSome_of_eq_some hr)
  obtain ⟨s', l', c', m', e', p', rfl⟩ := hbody.exists_eq
  rw [hbody.ofLine?_eq] at hr
  cases hr
  obtain rfl : p' = p := String.ofList_injective hpolicy
  obtain ⟨x, hx⟩ := hb.exists_eq_append
  obtain ⟨x', hx'⟩ := hbody.exists_eq_append
  rw [Closed.marker.body_eq] at hx'
  exact markersLast_of_last hx hx'

theorem MarkersLast.keepsFields (h : MarkersLast b) : KeepsFields b := by
  have hbody {line : List Char} (hline : Closed b line) : body line = b := by
    rw [hline.body_eq, h.eraseFirst_eq]
  constructor
  case isSome =>
    intro line hline
    rw [isSome_ofLine?_iff, hbody hline]
  case texts =>
    intro line hline s l c m e p hfields
    rw [← hbody hline] at hfields
    exact ⟨_, hfields.ofLine?_eq, rfl, rfl, rfl⟩

/-- Just these texts are read as they are when the end marker is put after them: those that have
markers only at their end, and those that have not six fields and get none when the first marker
is taken out. -/
theorem keepsFields_iff (b : List Char) :
    KeepsFields b ↔ MarkersLast b ∨ (¬ ∃ fs, SixFields b fs) ∧
      ∀ b', Text.FirstErased markerChars (b ++ markerChars) b' → ¬ ∃ fs, SixFields b' fs := by
  have hmarker : markerChars ≠ [] := by decide
  constructor
  · intro h
    by_cases hb : ∃ fs, SixFields b fs
    · exact .inl (h.markersLast hb)
    · refine .inr ⟨hb, fun b' herased hb' => ?_⟩
      rw [(Text.firstErased_iff hmarker).1 herased, ← Closed.marker.body_eq] at hb'
      exact hb ((h.isSome _ .marker).1 (isSome_ofLine?_iff.2 hb'))
  · rintro (h | ⟨hb, herased⟩)
    · exact h.keepsFields
    · constructor
      case isSome =>
        intro line hline
        rw [isSome_ofLine?_iff, hline.body_eq]
        exact iff_of_false (herased _ ((Text.firstErased_iff hmarker).2 rfl)) hb
      case texts =>
        intro line _ s l c m e p hfields
        exact absurd ⟨_, hfields⟩ hb

/-- A text with six fields and an end marker in the fourth. -/
def markedBody : List Char := "1~|~2~|~3~|~a~||~b~|~e~|~p".toList

/-- Its message loses the marker, and the policy keeps the one that was put after it. -/
theorem not_keepsFields_markedBody :
    ofLine? (markedBody ++ markerChars) = some ⟨some 1, some 2, some 3, "ab", "e", "p~||~"⟩ ∧
    ¬ KeepsFields markedBody := by
  have hread : ofLine? (markedBody ++ markerChars)
      = some ⟨some 1, some 2, some 3, "ab", "e", "p~||~"⟩ := by decide +kernel
  have hfields : SixFields markedBody
      ["1".toList, "2".toList, "3".toList, "a~||~b".toList, "e".toList, "p".toList] :=
    ⟨by decide, by decide +kernel, by decide +kernel, by decide +kernel⟩
  refine ⟨hread, fun h => ?_⟩
  obtain ⟨r, hr, hmessage, -⟩ := h.texts _ .marker _ _ _ _ _ _ hfields
  rw [hread] at hr
  cases hr
  exact absurd hmessage (by decide +kernel)

end Record

end PerlLint
