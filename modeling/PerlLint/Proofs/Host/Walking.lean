import Mathlib.Data.List.Basic
import PerlLint.Host.Files
import PerlLint.Proofs.Text.Split

/-!
# Where paths lead

A path is walked name by name, and on the way everything has to be there.  Where it leads is known
without looking: so many directories up, and from there down some names (`Trail`).  What has to be
there only decides whether the path can be walked.

So an absolute path leads to the same place from everywhere (`locate_of_isAbsolute`).  A relative
one leads to the same place from two directories if it can be walked from both, and if they have
the same directory above them where the path turns down (`locate_eq_iff`).
-/

namespace PerlLint.Host

variable {here there l : Location} {path name dir : String} {names : List String} {fs : Files}

/-! ## Trails -/

/-- The way that a path takes from any directory: so many directories up, and then down. -/
structure Trail where
  /-- The number of directories up. -/
  up : Nat
  /-- The names on the way down, the last one first. -/
  down : List String

namespace Trail

variable (t : Trail)

/-- The trail that stays where it is. -/
def start : Trail := ⟨0, []⟩

/-- The trail with one name more. -/
def step (name : String) : Trail :=
  if name = "" ∨ name = "." then t
  else if name = ".." then
    match t.down with
    | [] => ⟨t.up + 1, []⟩
    | _ :: around => ⟨t.up, around⟩
  else ⟨t.up, name :: t.down⟩

/-- Where the trail leads from a directory. -/
def follow (here : Location) : Location := t.down ++ here.drop t.up

/-- The location one name on. -/
theorem follow_step (name : String) (here : Location) :
    (t.step name).follow here
      = if name = "" ∨ name = "." then t.follow here
        else if name = ".." then (t.follow here).tail
        else name :: t.follow here := by
  unfold step
  split
  · rfl
  · split
    · obtain ⟨up, _ | ⟨around, down⟩⟩ := t
      · exact (List.tail_drop).symm
      · rfl
    · rfl

/-- A trail leads to the same place from two directories if they have the same one above them where
it turns down. -/
theorem follow_eq_iff : t.follow there = t.follow here ↔ there.drop t.up = here.drop t.up :=
  List.append_right_inj _

end Trail

/-- The trail of a path. -/
def trailOf (path : String) : Trail := (steps path).foldl Trail.step .start

/-- How many directories a path climbs up. -/
def climb (path : String) : Nat := (trailOf path).up

/-! ## Walking -/

/-- The walk goes on from the place one name on. -/
theorem walk_cons {strict : Bool} (h : fs.walk strict here (name :: names) = .ok l) :
    fs.walk strict
      (if name = "" ∨ name = "." then here
        else if name = ".." then here.tail
        else name :: here) names = .ok l := by
  rw [Files.walk] at h
  split at h
  case isTrue => cases h
  case isFalse =>
    split at h
    case isTrue hstay => rwa [if_pos hstay]
    case isFalse hstay =>
      rw [if_neg hstay]
      split at h
      case isTrue hup => rwa [if_pos hup]
      case isFalse hup =>
        rw [if_neg hup]
        split at h
        case isTrue => cases h
        case isFalse =>
          dsimp only at h
          split at h
          case isTrue => exact h
          case isFalse => cases h

/-- Names that can be walked lead to where their trail does. -/
theorem walk_eq_follow {strict : Bool} (t : Trail)
    (h : fs.walk strict (t.follow here) names = .ok l) :
    l = (names.foldl Trail.step t).follow here := by
  induction names generalizing t with
  | nil =>
      cases h
      rfl
  | cons name names ih =>
      apply ih (t.step name)
      rw [Trail.follow_step]
      exact walk_cons h

/-- A path that can be walked is walked from the root or from the directory. -/
theorem walk_of_locate (h : fs.locate here path = .ok l) :
    fs.walk true (if isAbsolute path then [] else here) (steps path) = .ok l := by
  unfold Files.locate Files.resolve at h
  split at h
  · cases h
  · split at h
    · cases h
    · split at h
      · cases h
      · exact h

theorem locate_of_isAbsolute (h : isAbsolute path) (here there : Location) :
    fs.locate there path = fs.locate here path := by
  unfold Files.locate Files.resolve
  simp only [if_pos h]

/-- A relative path leads to where its trail does. -/
theorem locate_eq_follow (hrelative : ¬ isAbsolute path) (h : fs.locate here path = .ok l) :
    l = (trailOf path).follow here := by
  have hwalk := walk_of_locate h
  rw [if_neg hrelative] at hwalk
  exact walk_eq_follow .start hwalk

/-- A path that can be walked from one directory leads to the same place from another one if it is
absolute, or if it can be walked from there, too, and climbs out of what the two do not share. -/
theorem locate_eq_iff (h : fs.locate here path = .ok l) (there : Location) :
    fs.locate there path = .ok l ↔
      isAbsolute path ∨
        (∃ l', fs.locate there path = .ok l') ∧
          there.drop (climb path) = here.drop (climb path) := by
  by_cases habsolute : isAbsolute path
  · rw [locate_of_isAbsolute habsolute here there]
    exact iff_of_true h (.inl habsolute)
  · rw [or_iff_right habsolute]
    constructor
    · intro hthere
      refine ⟨⟨l, hthere⟩, (trailOf path).follow_eq_iff.1 ?_⟩
      rw [← locate_eq_follow habsolute hthere, ← locate_eq_follow habsolute h]
    · rintro ⟨⟨l', hthere⟩, hdrop⟩
      have hfollow := (trailOf path).follow_eq_iff.2 hdrop
      rw [← locate_eq_follow habsolute hthere, ← locate_eq_follow habsolute h] at hfollow
      rw [hthere, hfollow]

/-! ## Paths that are put together -/

theorem isAbsolute_iff : isAbsolute path ↔ ∃ cs, path.toList = '/' :: cs := by
  unfold isAbsolute
  cases path.toList with
  | nil => simp
  | cons c cs => simp

/-- A path that is put together is the name alone, or it begins with the directory and ends with the
name. -/
theorem joinPath_cases (dir name : String) :
    ((isAbsolute name ∨ dir = "") ∧ joinPath dir name = name) ∨
    (¬ isAbsolute name ∧ dir ≠ "") ∧
      ∃ gap, (joinPath dir name).toList = dir.toList ++ (gap ++ name.toList) := by
  unfold joinPath
  split
  case isTrue h => exact .inl ⟨by simpa using h, rfl⟩
  case isFalse h =>
    have hjoined : ¬ isAbsolute name ∧ dir ≠ "" := by simpa using h
    split
    · exact .inr ⟨hjoined, [], by simp⟩
    · exact .inr ⟨hjoined, ['/'], by simp⟩

theorem isAbsolute_joinPath (dir name : String) :
    isAbsolute (joinPath dir name) ↔ isAbsolute name ∨ isAbsolute dir := by
  obtain ⟨hname | rfl, heq⟩ | ⟨⟨hname, hdir⟩, gap, heq⟩ := joinPath_cases dir name
  · rw [heq]
    exact iff_of_true hname (.inl hname)
  · rw [heq]
    exact (or_iff_left (by decide)).symm
  · obtain ⟨c, cs, hcs⟩ := List.exists_cons_of_ne_nil (mt String.toList_eq_nil_iff.1 hdir)
    simp [isAbsolute_iff, heq, hcs, isAbsolute_iff.not.1 hname]

theorem isAbsolute_pathOf (l : Location) : isAbsolute (Files.pathOf l) := by
  rw [isAbsolute_iff]
  cases l with
  | nil => exact ⟨_, rfl⟩
  | cons name around =>
      obtain ⟨last, rest, hrest⟩ := List.exists_cons_of_ne_nil
        (show (name :: around).reverse ≠ [] by simp)
      exact ⟨last.toList ++ rest.flatMap fun name => '/' :: name.toList, by
        simp [Files.pathOf, hrest]⟩

end PerlLint.Host
