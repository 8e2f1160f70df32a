import Mathlib.Data.List.TakeWhile
import PerlLint.Proofs.Text.Split
import PerlLint.Server.Basic

/-!
# Paths with a Perl ending

Whether a document of unknown language is Perl depends on the path of its URI, and only on how the
path ends.  Slashes at the end are passed over, and components that are a single dot (`PassedOver`).
What is left ends with the last component, unless there is nothing left (`LastComponent`).  The
ending of this component is behind its last dot, if it has a dot behind its first character
(`EndsIn`).

`hasPerlEnding` splits the path into components and looks for the last one that counts.  Here the
path is cut only where the last component begins and ends.  `isPerl_by_ending` says that both come to
the same, and that a language that is known leaves the path no say.
-/

namespace PerlLint

variable {path name tail w e : List Char}

/-! ## The last component -/

/-- Slashes, and components that are a single dot, each behind a slash. -/
inductive PassedOver : List Char → Prop where
  | nil : PassedOver []
  | slash {cs : List Char} : PassedOver cs → PassedOver ('/' :: cs)
  | dot {cs : List Char} : PassedOver cs → PassedOver ('/' :: '.' :: cs)

/-- The last component of a path, once slashes and dot components behind it are dropped. -/
inductive LastComponent : List Char → List Char → Prop where
  | intro {front name tail : List Char} :
    front = [] ∨ front.getLast? = some '/' →
    name ≠ [] →
    name ≠ ['.'] →
    '/' ∉ name →
    PassedOver tail →
    LastComponent (front ++ (name ++ tail)) name

/-- A component that is passed over. -/
def Skipped (p : List Char) : Prop := p = [] ∨ p = ['.']

/-- Nothing but components that are passed over comes behind. -/
theorem PassedOver.splitOn_append (h : PassedOver tail) (hw : '/' ∉ w) :
    ∃ ps, Text.splitOn ['/'] (w ++ tail) = w :: ps ∧ ∀ p ∈ ps, Skipped p := by
  -- What stands in front changes: behind the first slash it is nothing, or the dot.
  induction h generalizing w with
  | nil =>
      rw [List.append_nil, Text.splitOn_of_not_mem hw]
      exact ⟨[], rfl, nofun⟩
  | @slash cs _ ih =>
      obtain ⟨ps, hps, hskipped⟩ := ih (w := []) List.not_mem_nil
      rw [Text.splitOn_append_cons, Text.splitOn_of_not_mem hw]
      exact ⟨[] :: ps, by rw [← hps]; rfl, List.forall_mem_cons.2 ⟨.inl rfl, hskipped⟩⟩
  | @dot cs _ ih =>
      obtain ⟨ps, hps, hskipped⟩ := ih (w := ['.']) (by decide)
      rw [Text.splitOn_append_cons, Text.splitOn_of_not_mem hw]
      exact ⟨['.'] :: ps, by rw [← hps]; rfl, List.forall_mem_cons.2 ⟨.inr rfl, hskipped⟩⟩

theorem passedOver_flatMap {ps : List (List Char)} (h : ∀ p ∈ ps, Skipped p) :
    PassedOver (ps.flatMap (['/'] ++ ·)) := by
  induction ps with
  | nil => exact .nil
  | cons p ps ih =>
      obtain ⟨hp, hps⟩ := List.forall_mem_cons.1 h
      rw [List.flatMap_cons]
      rcases hp with rfl | rfl
      · exact .slash (ih hps)
      · exact .dot (ih hps)

/-- The last component of a path is one of its components, and behind it all are passed over. -/
theorem lastComponent_iff :
    LastComponent path name ↔ ¬ Skipped name ∧ ∃ front back,
      Text.splitOn ['/'] path = front ++ name :: back ∧ ∀ p ∈ back, Skipped p := by
  constructor
  · intro h
    cases h with
    | @intro front _ tail hfront hne hdot hslash htail =>
        obtain ⟨back, hback, hskipped⟩ := htail.splitOn_append hslash
        refine ⟨not_or.2 ⟨hne, hdot⟩, ?_⟩
        rcases hfront with rfl | hfront
        · exact ⟨[], back, hback, hskipped⟩
        · obtain ⟨front, rfl⟩ := List.getLast?_eq_some_iff.1 hfront
          refine ⟨Text.splitOn ['/'] front, back, ?_, hskipped⟩
          rw [List.append_assoc, List.singleton_append, Text.splitOn_append_cons, hback]
  · rintro ⟨hname, front, back, hsplit, hskipped⟩
    obtain ⟨hne, hdot⟩ := not_or.1 hname
    have hslash : '/' ∉ name := Text.not_mem_of_mem_splitOn (s := path) (by simp [hsplit])
    have hfront : front.flatMap (· ++ ['/']) = [] ∨
        (front.flatMap (· ++ ['/'])).getLast? = some '/' := by
      rcases List.eq_nil_or_concat front with rfl | ⟨init, last, rfl⟩
      · exact .inl rfl
      · right
        simp
    have hpath := Text.joinWith_splitOn (List.cons_ne_nil '/' []) path
    rw [hsplit, Text.joinWith_append (List.cons_ne_nil _ _), Text.joinWith_cons] at hpath
    rw [← hpath]
    exact .intro hfront hne hdot hslash (passedOver_flatMap hskipped)

theorem getLast?_filter_components (path name : List Char) :
    ((Text.splitOn ['/'] path).filter fun s => !(s.isEmpty || s == ['.'])).getLast? = some name ↔
      LastComponent path name := by
  rw [lastComponent_iff, List.getLast?_filter, List.find?_eq_some_iff_append]
  refine and_congr (by simp [Skipped]) ?_
  constructor
  · rintro ⟨back, front, hsplit, hskipped⟩
    refine ⟨front.reverse, back.reverse, ?_, ?_⟩
    · rw [← List.reverse_reverse (Text.splitOn ['/'] path), hsplit]
      simp
    · simpa [Skipped] using hskipped
  · rintro ⟨front, back, hsplit, hskipped⟩
    refine ⟨back.reverse, front.reverse, by simp [hsplit], ?_⟩
    simpa [Skipped] using hskipped

/-- A path has at most one last component. -/
theorem LastComponent.unique {name' : List Char} (h : LastComponent path name)
    (h' : LastComponent path name') : name = name' := by
  rw [← getLast?_filter_components] at h h'
  exact Option.some_inj.1 (h.symm.trans h')

theorem fileName?_eq_some_iff :
    fileName? path = some name ↔ LastComponent path name ∧ name ≠ ['.', '.'] := by
  rw [← getLast?_filter_components, fileName?]
  cases ((Text.splitOn ['/'] path).filter fun s => !(s.isEmpty || s == ['.'])).getLast? with
  | none => exact iff_of_false nofun fun h => nomatch h.1
  | some last =>
      dsimp only
      rw [Option.some_inj]
      split
      case isTrue hup => exact iff_of_false nofun fun h => h.2 (h.1 ▸ hup)
      case isFalse hup =>
        rw [Option.some_inj]
        exact ⟨fun h => ⟨h, h ▸ hup⟩, fun h => h.1⟩

/-! ## Endings -/

/-- A name has an ending: it has a dot behind its first character, and the ending is what follows
the last dot. -/
structure EndsIn (name e : List Char) : Prop where
  /-- There is a dot behind the first character. -/
  dot : '.' ∈ name.tail
  /-- The ending follows a dot. -/
  behind : ∃ stem, name = stem ++ '.' :: e
  /-- This is the last one. -/
  last : '.' ∉ e

theorem ne_dot_of_not_mem (h : '.' ∉ e) : ∀ c ∈ e.reverse, (c != '.') = true := by
  intro c hc
  have hne : c ≠ '.' := fun hdot => h (hdot ▸ List.mem_reverse.1 hc)
  simpa using hne

theorem ending?_of_not_mem (h : '.' ∉ name) : ending? name = none := by
  rw [ending?, List.dropWhile_eq_nil_iff.2 (ne_dot_of_not_mem h)]
  rfl

/-- The ending is what follows the last dot, unless that dot comes first. -/
theorem ending?_append (h : '.' ∉ e) (stem : List Char) :
    ending? (stem ++ '.' :: e) = if stem = [] then none else some e := by
  have hback := ne_dot_of_not_mem h
  have hreverse : (stem ++ '.' :: e).reverse = e.reverse ++ '.' :: stem.reverse := by simp
  rw [ending?, hreverse, List.takeWhile_append_of_pos hback, List.dropWhile_append_of_pos hback]
  cases stem <;> simp

theorem ending?_eq_some_iff : ending? name = some e ↔ EndsIn name e := by
  constructor
  · intro h
    have hdot : '.' ∈ name.reverse := by
      rw [List.mem_reverse]
      by_contra hnone
      rw [ending?_of_not_mem hnone] at h
      cases h
    obtain ⟨back, front, hreverse, hback⟩ := List.eq_append_cons_of_mem hdot
    have hname : name = front.reverse ++ '.' :: back.reverse := by
      rw [← List.reverse_reverse name, hreverse]
      simp
    rw [hname, ending?_append (by simpa using hback)] at h
    split at h
    case isTrue => cases h
    case isFalse hne =>
      cases h
      obtain ⟨c, stem, hstem⟩ := List.exists_cons_of_ne_nil hne
      exact ⟨by simp [hname, hstem], ⟨_, hname⟩, by simpa using hback⟩
  · rintro ⟨hdot, ⟨stem, rfl⟩, hlast⟩
    rw [ending?_append hlast, if_neg]
    rintro rfl
    exact hlast hdot

theorem hasPerlEnding_iff :
    hasPerlEnding path ↔ ∃ name e, LastComponent path name ∧ name ≠ ['.', '.'] ∧ EndsIn name e ∧
      e ∈ perlEndings := by
  rw [hasPerlEnding]
  constructor
  · intro h
    cases hfound : (fileName? path).bind ending? with
    | none =>
        rw [hfound] at h
        cases h
    | some e =>
        obtain ⟨name, hname, he⟩ := Option.bind_eq_some_iff.1 hfound
        obtain ⟨hlast, hup⟩ := fileName?_eq_some_iff.1 hname
        rw [hfound] at h
        exact ⟨name, e, hlast, hup, ending?_eq_some_iff.1 he, List.contains_iff_mem.1 h⟩
  · rintro ⟨name, e, hlast, hup, he, hperl⟩
    rw [fileName?_eq_some_iff.2 ⟨hlast, hup⟩, Option.bind_some, ending?_eq_some_iff.2 he]
    exact List.contains_iff_mem.2 hperl

/-- If its language is known, a document is Perl if this is what it is in.  Else it is Perl if the
path of its URI has a last component other than two dots, and the ending of this component is one of
five. -/
theorem isPerl_by_ending (u : Uri) :
    (∀ language, isPerl (some language) u ↔ language = "perl") ∧
    (isPerl none u ↔ ∃ name e, LastComponent u.path.toList name ∧ name ≠ ['.', '.'] ∧
      EndsIn name e ∧ String.ofList e ∈ ["pl", "pm", "t", "psgi", "cgi"]) ∧
    (∀ name name', LastComponent u.path.toList name → LastComponent u.path.toList name' →
      name = name') := by
  have hendings : ∀ e, String.ofList e ∈ ["pl", "pm", "t", "psgi", "cgi"] ↔ e ∈ perlEndings := by
    intro e
    simp [perlEndings, String.ext_iff]
  refine ⟨fun language => beq_iff_eq, ?_, fun name name' => LastComponent.unique⟩
  simp only [hendings]
  exact hasPerlEnding_iff

/-- Of all the dots here only one counts, and it is in the path. -/
example :
    isPerl none ⟨"file", none, "/.b/..pl/.//", some "q.txt", some "f.txt"⟩ ∧
    ¬ isPerl none ⟨"file", none, "/.b/a%2Epl", some "q.pl", some "f.pl"⟩ := by decide +kernel

end PerlLint
