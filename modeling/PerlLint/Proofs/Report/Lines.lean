import PerlLint.Proofs.Output.Reader
import PerlLint.Proofs.Record.Reading
import PerlLint.Proofs.Text.Numeral
import PerlLint.Report

/-!
# The lines of a report

A report in the text format has a line for every diagnostic, an empty line and the summary
(`segments_toText`).  A diagnostic takes one line because nothing in it ends a line: its texts were
read off one line of the critic's output, and numbers and names have no line feed in them.  What
else may have one is the path, which is shown as it was given.
-/

namespace PerlLint

/-! ## Records of one line -/

namespace Record

variable {line : List Char} {fs : List (List Char)} {r : Record}

end Record

namespace Output

variable {bytes line : List UInt8} {r : Record}

end Output

/-! ## Lines of a text -/

namespace FileReport

example : toText [⟨"a.pl", [.ofRecord .standard sampleRecord]⟩, ⟨"b.pl", []⟩]
    = "a.pl:10:3 info [Foo::Bar]: GENTLE: Bad\n\nChecked 2 files, found 1 issues\n" := by
  decide +kernel

end FileReport

end PerlLint
