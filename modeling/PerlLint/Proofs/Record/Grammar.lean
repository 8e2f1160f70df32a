import PerlLint.Proofs.Record.Reading

/-!
# The grammar of records

A line is a record if its body is made of six fields with the separator between them
(`SixFields`).  The separator overlaps with itself: in `~|~|~` it stands at two places, and a scan
from the left cuts at the first.  So it is not enough that no field holds the separator.  A field
in front of a separator must not end in `~|` either, and then there is one way to cut a body.

`ofLine?_grammar` says that the reader accepts just these lines, and what it makes of them.
-/

namespace PerlLint

namespace Text

variable {tok p s : List Char}

/-! ## Texts without something -/

/-- The second text is the first one without one carriage return at its end, if it has one. -/
inductive ReturnDropped : List Char → List Char → Prop where
  | dropped (s : List Char) : ReturnDropped (s ++ ['\r']) s
  | kept {s : List Char} : s.getLast? ≠ some '\r' → ReturnDropped s s

/-- The second text is the first one without the first occurrence of a token, if there is one. -/
inductive FirstErased (tok : List Char) : List Char → List Char → Prop where
  | erased {p : List Char} (s : List Char) :
    FirstAfter tok p →
    FirstErased tok (p ++ (tok ++ s)) (p ++ s)
  | absent {s : List Char} :
    ¬ tok <:+: s →
    FirstErased tok s s

theorem returnDropped_iff {t : List Char} : ReturnDropped s t ↔ t = dropOneEnd '\r' s := by
  constructor
  · intro h
    cases h with
    | dropped _ => exact (dropOneEnd_append_singleton '\r' t).symm
    | kept hs => exact (dropOneEnd_of_ne hs).symm
  · rintro rfl
    by_cases hs : s.getLast? = some '\r'
    · obtain ⟨t, rfl⟩ := List.getLast?_eq_some_iff.1 hs
      rw [dropOneEnd_append_singleton]
      exact .dropped t
    · rw [dropOneEnd_of_ne hs]
      exact .kept hs

theorem firstErased_iff (htok : tok ≠ []) {t : List Char} :
    FirstErased tok s t ↔ t = eraseFirst tok s := by
  constructor
  · intro h
    cases h with
    | erased s hp => exact (eraseFirst_of_firstAfter htok hp s).symm
    | absent hs => exact (eraseFirst_of_absent hs).symm
  · rintro rfl
    by_cases hs : tok <:+: s
    · obtain ⟨p, rest, rfl, hp⟩ := exists_firstAfter hs
      rw [eraseFirst_of_firstAfter htok hp]
      exact .erased rest hp
    · rw [eraseFirst_of_absent hs]
      exact .absent hs

end Text

namespace Record

variable {line b : List Char} {fs : List (List Char)}

/-! ## Six fields -/

/-- A text is made of six fields with the separator between them, and a scan from the left cuts it
there. -/
structure SixFields (b : List Char) (fs : List (List Char)) : Prop where
  /-- There are six. -/
  count : fs.length = 6
  /-- The text is made of them. -/
  join : Text.joinWith separatorChars fs = b
  /-- No field holds the separator. -/
  free : ∀ f ∈ fs, ¬ separatorChars <:+: f
  /-- No field with a separator after it begins one. -/
  back : ∀ f ∈ fs.dropLast, ¬ ['~', '|'] <:+ f

/-- Six fields are six pieces that a scan finds. -/
theorem sixFields_iff : SixFields b fs ↔ Text.Pieces separatorChars b fs ∧ fs.length = 6 := by
  constructor
  · intro h
    have hne : fs ≠ [] := by
      rintro rfl
      cases h.count
    obtain ⟨init, last, rfl⟩ : ∃ init last, fs = init ++ [last] :=
      ⟨_, _, (List.dropLast_append_getLast hne).symm⟩
    have hback := h.back
    rw [List.dropLast_concat] at hback
    have hpieces : Text.Pieces separatorChars (Text.joinWith separatorChars (init ++ [last]))
        (init ++ [last]) := by
      apply Text.pieces_joinWith
      · intro f hf
        exact firstAfter_separator_iff.2
          ⟨h.free f (List.mem_append_left [last] hf), hback f hf⟩
      · exact h.free last (by simp)
    rw [h.join] at hpieces
    exact ⟨hpieces, h.count⟩
  · rintro ⟨hpieces, hcount⟩
    have hfree := hpieces.not_infix (by decide)
    have hback : ∀ f ∈ fs.dropLast, ¬ ['~', '|'] <:+ f := by
      intro f hf
      exact (firstAfter_separator_iff.1 (hpieces.firstAfter f hf)).2
    exact ⟨hcount, hpieces.joinWith_eq, hfree, hback⟩

/-- A body is cut in one way. -/
theorem SixFields.splitOn_eq (h : SixFields b fs) : Text.splitOn separatorChars b = fs :=
  (Text.splitOn_eq_iff (by decide)).2 (sixFields_iff.1 h).1

theorem isSome_ofFields?_iff : (ofFields? fs).isSome ↔ fs.length = 6 := by
  rcases fs with _ | ⟨s, _ | ⟨l, _ | ⟨c, _ | ⟨m, _ | ⟨e, _ | ⟨p, _ | ⟨x, fs⟩⟩⟩⟩⟩⟩⟩
  case cons.cons.cons.cons.cons.cons.nil => simp [ofFields?]
  all_goals simp [ofFields?]

/-! ## Lines -/

/-- The second text is the body of the first one: one carriage return at the end is dropped, and
then the first end marker. -/
def IsBody (line b : List Char) : Prop :=
  ∃ t, Text.ReturnDropped line t ∧ Text.FirstErased markerChars t b

theorem isBody_iff : IsBody line b ↔ b = body line := by
  have hmarker : markerChars ≠ [] := by decide
  simp only [IsBody, Text.returnDropped_iff, Text.firstErased_iff hmarker, exists_eq_left]
  rfl

/-- A line has one body.  It is a record if the body is made of six fields.  There is at most one
way to cut it, and the record has the numbers that the first three fields begin with, and the last
three fields as they are. -/
theorem ofLine?_grammar (line : List Char) :
    ∃ b, (∀ b', IsBody line b' ↔ b' = b) ∧
      ((ofLine? line).isSome ↔ ∃ fs, SixFields b fs) ∧
      (∀ fs fs', SixFields b fs → SixFields b fs' → fs = fs') ∧
      ∀ s l c m e p, SixFields b [s, l, c, m, e, p] →
        ofLine? line = some ⟨Text.leadingInt? s, Text.leadingInt? l, Text.leadingInt? c,
          String.ofList m, String.ofList e, String.ofList p⟩ := by
  refine ⟨body line, fun b' => isBody_iff, ?_, ?_, ?_⟩
  · rw [ofLine?, isSome_ofFields?_iff]
    constructor
    · intro hcount
      have hpieces : Text.Pieces separatorChars (body line)
          (Text.splitOn separatorChars (body line)) := (Text.splitOn_eq_iff (by decide)).1 rfl
      exact ⟨_, sixFields_iff.2 ⟨hpieces, hcount⟩⟩
    · rintro ⟨fs, h⟩
      rw [h.splitOn_eq]
      exact h.count
  · intro fs fs' h h'
    rw [← h.splitOn_eq, h'.splitOn_eq]
  · intro s l c m e p h
    rw [ofLine?, h.splitOn_eq, ofFields?]

/-- Where the separator overlaps with itself the first one counts. -/
example : (ofLine? "1~|~2~|~3~|~a~|~|~b~|~p".toList).map explanation = some "|~b" := by
  decide +kernel

end Record

end PerlLint
