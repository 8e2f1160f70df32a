import Mathlib.Data.List.Basic
import PerlLint.Output
import PerlLint.Proofs.Text.Lines
import PerlLint.Proofs.Text.Utf8

/-!
# Reading an output

The text of a line of bytes is what is left of it without its line feed and the carriage returns
at its end (`lineText_line`, `lineText_last`).  Decoding the whole output gives the same texts,
since bytes can be decoded in parts around a line feed.

A reader that has taken some bytes has taken the complete lines among them, and holds the rest:
bytes without a line feed are added to the line it holds (`takeChunk_of_not_mem`), and bytes up to
a line feed complete this line (`takeChunk_line`).  So it makes no difference where the bytes are
cut, and the output of a stream is the output of its bytes (`collect_eq_ofBytes`).

Every line is a record, or discarded, or blank, whatever the lines around it
(`ofLines_eq`).
-/

namespace PerlLint.Output

open Text.Utf8 (decodeLossy)

variable {l : List UInt8}

/-! ## The text of a line -/

theorem decodeLossy_append_returns (l : List UInt8) (k : Nat) :
    decodeLossy (l ++ List.replicate k 13) = decodeLossy l ++ List.replicate k '\r' :=
  Text.Utf8.decodeLossy_append_replicate (b := 13) (by decide) l k

theorem decodeLossy_append_lineFeed (l s : List UInt8) :
    decodeLossy (l ++ 10 :: s) = decodeLossy l ++ '\n' :: decodeLossy s :=
  Text.Utf8.decodeLossy_append_cons (b := 10) (by decide) l s

theorem not_mem_decodeLossy (h : 10 ∉ l) : '\n' ∉ decodeLossy l :=
  mt (Text.Utf8.mem_of_mem_decodeLossy (b := 10) (by decide) (by decide)) h

theorem getLast?_decodeLossy_ne (h : l.getLast? ≠ some 13) :
    (decodeLossy l).getLast? ≠ some '\r' :=
  Text.Utf8.getLast?_decodeLossy (b := 13) (by decide) (by decide) h

theorem isLineEnd_iff {c : Char} : isLineEnd c ↔ c = '\n' ∨ c = '\r' := by
  simp [isLineEnd]

theorem dropEnd_decodeLossy (hl : 10 ∉ l) (hlast : l.getLast? ≠ some 13) {ends : List Char}
    (hends : ∀ c ∈ ends, isLineEnd c) :
    Text.dropEnd isLineEnd (decodeLossy l ++ ends) = decodeLossy l := by
  rw [Text.dropEnd_append hends]
  apply Text.dropEnd_of_getLast?
  intro c hc
  rw [isLineEnd_iff, not_or]
  refine ⟨?_, ?_⟩
  · rintro rfl
    exact not_mem_decodeLossy hl (List.mem_of_getLast? hc)
  · rintro rfl
    exact getLast?_decodeLossy_ne hlast hc

theorem lineText_line (hl : 10 ∉ l) (hlast : l.getLast? ≠ some 13) (k : Nat) :
    lineText (l ++ List.replicate k 13 ++ [10]) = decodeLossy l := by
  rw [lineText, decodeLossy_append_lineFeed, decodeLossy_append_returns, List.append_assoc]
  refine dropEnd_decodeLossy hl hlast fun c hc => ?_
  rcases List.mem_append.1 hc with hc | hc
  · exact List.eq_of_mem_replicate hc ▸ rfl
  · exact List.mem_singleton.1 hc ▸ rfl

theorem lineText_last (hl : 10 ∉ l) (hlast : l.getLast? ≠ some 13) (k : Nat) :
    lineText (l ++ List.replicate k 13) = decodeLossy l := by
  rw [lineText, decodeLossy_append_returns]
  exact dropEnd_decodeLossy hl hlast fun c hc => List.eq_of_mem_replicate hc ▸ rfl

/-! ## One line -/

/-- The record on a line of bytes. -/
def recordOn? (line : List UInt8) : Option Record := Record.ofLine? (lineText line)

/-- The line is neither a record nor blank. -/
def isDiscarded (line : List UInt8) : Bool :=
  (recordOn? line).isNone && !Text.allBlank (lineText line)

/-- A line gives at most one record, and counts as discarded or not. -/
theorem takeLine_eq (out : Output) (line : List UInt8) :
    out.takeLine line =
      { out with
        records := (recordOn? line).toList ++ out.records
        discarded := out.discarded + (isDiscarded line).toNat } := by
  unfold takeLine isDiscarded recordOn?
  dsimp only
  cases Record.ofLine? (lineText line) with
  | some r => rfl
  | none => cases Text.allBlank (lineText line) <;> rfl

theorem foldl_takeLine (out : Output) (lines : List (List UInt8)) :
    lines.foldl takeLine out =
      { out with
        records := (lines.filterMap recordOn?).reverse ++ out.records
        discarded := out.discarded + lines.countP isDiscarded } := by
  induction lines generalizing out with
  | nil => simp
  | cons line lines ih =>
      rw [List.foldl_cons, ih, takeLine_eq, List.filterMap_cons, List.countP_cons]
      cases recordOn? line <;> cases isDiscarded line <;> simp <;> omega

/-- The output of some lines has their records, and the number of those that are discarded. -/
theorem ofLines_eq (lines : List (List UInt8)) :
    ofLines lines = ⟨lines.filterMap recordOn?, lines.countP isDiscarded, none⟩ := by
  simp [ofLines, foldl_takeLine, empty]

theorem filterMap_segments_append_cons (h : 10 ∉ l) (s : List UInt8) :
    (Text.segments 10 (l ++ 10 :: s)).filterMap recordOn?
      = (recordOn? (l ++ [10])).toList ++ (Text.segments 10 s).filterMap recordOn? := by
  simp [Text.segments_append_cons h, List.filterMap_eq_flatMap_toList]

theorem filterMap_segments_of_not_mem (h : 10 ∉ l) (hne : l ≠ []) :
    (Text.segments 10 l).filterMap recordOn? = (recordOn? l).toList := by
  simp [Text.segments_of_not_mem h hne, List.filterMap_eq_flatMap_toList]

/-! ## Chunks -/

namespace Reader

variable {rd : Reader} {bytes : List UInt8}

theorem takeChunk_of_not_mem (h : 10 ∉ bytes) :
    rd.takeChunk bytes = ⟨rd.out, rd.line ++ bytes⟩ := by
  by_cases hne : bytes = []
  · subst hne
    simp [takeChunk]
  · have hlast : bytes.getLast? ≠ some 10 := fun hl => h (List.mem_of_getLast? hl)
    rw [takeChunk, Text.segments_of_not_mem h hne, List.foldl_cons, List.foldl_nil, takePiece,
      if_neg hlast]

theorem takeChunk_line (h : 10 ∉ bytes) (s : List UInt8) :
    rd.takeChunk (bytes ++ 10 :: s)
      = takeChunk ⟨rd.out.takeLine (rd.line ++ (bytes ++ [10])), []⟩ s := by
  rw [takeChunk, Text.segments_append_cons h, List.foldl_cons, takePiece, if_pos (by simp)]
  rfl

/-- Bytes that come together are taken like bytes that come one after the other. -/
theorem takeChunk_append (rd : Reader) (xs ys : List UInt8) :
    rd.takeChunk (xs ++ ys) = (rd.takeChunk xs).takeChunk ys := by
  induction xs using Text.lines_induction (10 : UInt8) generalizing rd with
  | nil => simp [takeChunk]
  | last l _ hl =>
      rw [takeChunk_of_not_mem hl]
      -- The line that `l` begins goes on in `ys`, to a line feed or to the end.
      by_cases hy : 10 ∈ ys
      · obtain ⟨l', s, rfl, hl'⟩ := List.eq_append_cons_of_mem hy
        rw [takeChunk_line hl', ← List.append_assoc, takeChunk_line (by simp [hl, hl'])]
        simp
      · rw [takeChunk_of_not_mem hy, takeChunk_of_not_mem (by simp [hl, hy])]
        simp
  | line l s hl ih =>
      rw [List.append_assoc, List.cons_append, takeChunk_line hl, takeChunk_line hl, ih]

theorem foldl_takeChunk (rd : Reader) (chunks : List (List UInt8)) :
    chunks.foldl takeChunk rd = rd.takeChunk chunks.flatten := by
  induction chunks generalizing rd with
  | nil => simp [takeChunk]
  | cons chunk chunks ih => rw [List.foldl_cons, ih, List.flatten_cons, takeChunk_append]

/-- Between lines, the lines that the bytes make are what is taken. -/
theorem finish_takeChunk (out : Output) (bytes : List UInt8) :
    (takeChunk ⟨out, []⟩ bytes).finish =
      let out := (Text.segments 10 bytes).foldl takeLine out
      { out with records := out.records.reverse } := by
  induction bytes using Text.lines_induction (10 : UInt8) generalizing out with
  | nil => rfl
  | last l hne hl =>
      rw [takeChunk_of_not_mem hl, Text.segments_of_not_mem hl hne, finish]
      simp [hne]
  | line l s hl ih => rw [takeChunk_line hl, ih, Text.segments_append_cons hl]; rfl

end Reader

/-- The output of a stream does not depend on where it is cut. -/
theorem collect_eq_ofBytes (chunks : List (List UInt8)) :
    collect chunks = ofBytes chunks.flatten := by
  rw [collect, Reader.foldl_takeChunk, Reader.start, Reader.finish_takeChunk]
  rfl

/-- The output of a stream, line by line. -/
theorem collect_eq (chunks : List (List UInt8)) :
    collect chunks =
      let lines := Text.segments 10 chunks.flatten
      ⟨lines.filterMap recordOn?, lines.countP isDiscarded, none⟩ := by
  rw [collect_eq_ofBytes, ofBytes, ofLines_eq]

end PerlLint.Output
