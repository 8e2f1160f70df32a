import PerlLint.Proofs.Output.Reader
import PerlLint.Proofs.Record.Reading

/-!
# Two ways to read an output

A stream is cut into lines of bytes, and each line is decoded and freed from all carriage returns
at its end (`Output.collect`).  A whole output is decoded first, and then cut into lines that lose
at most two carriage returns: one with the line feed, and one before the record is read
(`Record.ofOutput`).

Decoding does not depend on the cuts.  So both ways see the same lines, and a line makes the
same record in both, but for carriage returns that are left at the end of the policy
(`Output.Returned`).
-/

namespace PerlLint.Output

open Text.Utf8 (decodeLossy)

variable {l s : List UInt8}

/-! ## One line -/

/-- In a whole output a line keeps all carriage returns but two. -/
theorem record_on_line (h : 10 ∉ l) :
    ∃ k, Record.ofLine? (Text.dropOneEnd '\r' (decodeLossy l))
        = (recordOn? (l ++ [10])).map (Record.addToPolicy (List.replicate k '\r'))
      ∧ (¬ [13, 13, 13] <:+ l → k = 0) := by
  obtain ⟨y, k, rfl, hlast⟩ := Text.exists_eq_append_replicate (13 : UInt8) l
  have hy : 10 ∉ y := fun hmem => h (List.mem_append_left _ hmem)
  have hreturn := getLast?_decodeLossy_ne hlast
  refine ⟨k - 1 - 1, ?_, fun hshort => ?_⟩
  · rw [recordOn?, lineText_line hy hlast, decodeLossy_append_returns,
      Text.dropOneEnd_append_replicate hreturn, Record.ofLine?_append_replicate hreturn]
  · have hk : k < 3 := Text.lt_of_not_suffix hshort
    omega

/-- On a last line without line feed it keeps all but one. -/
theorem record_on_last (h : 10 ∉ l) :
    ∃ k, Record.ofLine? (decodeLossy l)
        = (recordOn? l).map (Record.addToPolicy (List.replicate k '\r'))
      ∧ (¬ [13, 13] <:+ l → k = 0) := by
  obtain ⟨y, k, rfl, hlast⟩ := Text.exists_eq_append_replicate (13 : UInt8) l
  have hy : 10 ∉ y := fun hmem => h (List.mem_append_left _ hmem)
  have hreturn := getLast?_decodeLossy_ne hlast
  refine ⟨k - 1, ?_, fun hshort => ?_⟩
  · rw [recordOn?, lineText_last hy hlast, decodeLossy_append_returns,
      Record.ofLine?_append_replicate hreturn]
  · have hk : k < 2 := Text.lt_of_not_suffix hshort
    omega

/-! ## All lines -/

/-- The record is the other one with some carriage returns at the end of the policy. -/
def Returned (r r' : Record) : Prop := ∃ k, r' = r.addToPolicy (List.replicate k '\r')

theorem forall₂_returned_toList {o : Option Record} {k : Nat} {rs rs' : List Record}
    (h : List.Forall₂ Returned rs rs') :
    List.Forall₂ Returned (o.toList ++ rs)
      ((o.map (Record.addToPolicy (List.replicate k '\r'))).toList ++ rs') := by
  cases o with
  | none => exact h
  | some r => exact .cons ⟨k, rfl⟩ h

theorem records_agree (bytes : List UInt8) :
    let stream := (Text.segments 10 bytes).filterMap recordOn?
    let whole := Record.ofOutput (decodeLossy bytes)
    List.Forall₂ Returned stream whole ∧
    (¬ [13, 13, 13, 10] <:+: bytes → ¬ [13, 13] <:+ bytes → stream = whole) := by
  dsimp only
  induction bytes using Text.lines_induction (10 : UInt8) with
  | nil => exact ⟨.nil, fun _ _ => rfl⟩
  | last l hne hl =>
      obtain ⟨k, hrec, hk⟩ := record_on_last hl
      rw [filterMap_segments_of_not_mem hl hne, Record.ofOutput_of_not_mem (not_mem_decodeLossy hl)
        (Text.Utf8.decodeLossy_ne_nil hne), hrec]
      refine ⟨?_, fun _ hshort => ?_⟩
      · simpa using forall₂_returned_toList (o := recordOn? l) (k := k) .nil
      · cases recordOn? l <;> simp [hk hshort]
  | line l s hl ih =>
      obtain ⟨k, hrec, hk⟩ := record_on_line hl
      rw [filterMap_segments_append_cons hl, decodeLossy_append_lineFeed,
        Record.ofOutput_append_cons (not_mem_decodeLossy hl), hrec]
      refine ⟨forall₂_returned_toList ih.1, fun hlines hlast => ?_⟩
      have hline : ¬ [13, 13, 13] <:+ l := by
        rintro ⟨y, rfl⟩
        exact hlines ⟨y, s, by simp⟩
      have hsuffix : s <:+ l ++ 10 :: s := ⟨l ++ [10], by simp⟩
      have hrest := ih.2 (fun h => hlines (h.trans hsuffix.isInfix)) fun h =>
        hlast (h.trans hsuffix)
      cases recordOn? (l ++ [10]) <;> simp [hk hline, hrest]

/-- Reading a stream gives the records of the whole output, whatever the bytes are and wherever
the stream is cut.  Only carriage returns at the end of a policy may be missing, and none is
unless a line ends in more of them than the whole output drops. -/
theorem collect_agrees (chunks : List (List UInt8)) :
    List.Forall₂ Returned (collect chunks).records
      (Record.ofOutput (decodeLossy chunks.flatten)) ∧
    (¬ [13, 13, 13, 10] <:+: chunks.flatten → ¬ [13, 13] <:+ chunks.flatten →
      (collect chunks).records = Record.ofOutput (decodeLossy chunks.flatten)) := by
  rw [collect_eq]
  exact records_agree chunks.flatten

/-- A stream that is cut inside a character, and between the carriage return and the line feed of
a line: `5~|~1~|~1~|~é~|~~|~p~||~`, and a line after it that is no record. -/
def cutStream : List (List UInt8) :=
  let numbers := [0x35, 0x7E, 0x7C, 0x7E, 0x31, 0x7E, 0x7C, 0x7E, 0x31, 0x7E, 0x7C, 0x7E]
  let policy := [0x7E, 0x7C, 0x7E, 0x7E, 0x7C, 0x7E, 0x70, 0x7E, 0x7C, 0x7C, 0x7E]
  [numbers ++ [0xC3], 0xA9 :: policy ++ [0x0D], [0x0A, 0x78]]

theorem collect_agrees_cutStream :
    (collect cutStream).records = [⟨some 5, some 1, some 1, "é", "", "p"⟩] ∧
    (collect cutStream).records = Record.ofOutput (decodeLossy cutStream.flatten) :=
  ⟨by decide +kernel, (collect_agrees cutStream).2 (by decide +kernel) (by decide +kernel)⟩

end PerlLint.Output
