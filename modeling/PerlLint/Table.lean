/-!
# Tables

A table holds one value per key.  It is a list of entries in which no key occurs
twice.  Its view is `get?`: the lemmas at the end say what setting and erasing a
key do to it.
-/

namespace PerlLint

/-- A table of values by key. -/
structure Table (κ α : Type) where
  /-- The entries. -/
  entries : List (κ × α)
  /-- No key occurs twice. -/
  nodup : (entries.map Prod.fst).Nodup

namespace Table

variable {κ α : Type} [DecidableEq κ]

/-- The table without entries. -/
def empty : Table κ α := ⟨[], by simp⟩

/-- The value of a key in a list of entries. -/
def find? (k : κ) : List (κ × α) → Option α
  | [] => none
  | (l, a) :: rest => if l = k then some a else find? k rest

/-- The value of a key. -/
def get? (t : Table κ α) (k : κ) : Option α := find? k t.entries

/-- The table without a key. -/
def erase (t : Table κ α) (k : κ) : Table κ α where
  entries := t.entries.filter fun e => e.1 ≠ k
  nodup := t.nodup.sublist (List.Sublist.map _ List.filter_sublist)

/-- The table with a key set to a value. -/
def set (t : Table κ α) (k : κ) (a : α) : Table κ α where
  entries := (k, a) :: (t.erase k).entries
  nodup := by
    rw [List.map_cons, List.nodup_cons]
    refine ⟨fun h => ?_, (t.erase k).nodup⟩
    obtain ⟨e, he, hk⟩ := List.mem_map.1 h
    have := (List.mem_filter.1 he).2
    simp [hk] at this

/-- Whether a key has a value. -/
def contains (t : Table κ α) (k : κ) : Bool := (t.get? k).isSome

/-- The number of entries whose value satisfies `p`. -/
def count (t : Table κ α) (p : α → Bool) : Nat := t.entries.countP fun e => p e.2

/-! ## The view -/

private theorem find?_filter_self (k : κ) (es : List (κ × α)) :
    find? k (es.filter fun e => e.1 ≠ k) = none := by
  induction es with
  | nil => rfl
  | cons e es ih =>
      by_cases h : e.1 = k
      · simpa [h] using ih
      · rw [List.filter_cons_of_pos (by simpa using h), find?, if_neg h, ih]

private theorem find?_filter_ne {k l : κ} (h : l ≠ k) (es : List (κ × α)) :
    find? l (es.filter fun e => e.1 ≠ k) = find? l es := by
  induction es with
  | nil => rfl
  | cons e es ih =>
      by_cases he : e.1 = k
      · rw [List.filter_cons_of_neg (by simpa using he), ih, find?, if_neg]
        exact fun hl => h (hl ▸ he)
      · rw [List.filter_cons_of_pos (by simpa using he), find?, find?, ih]

private theorem find?_eq_some_iff {k : κ} {a : α} {es : List (κ × α)}
    (h : (es.map Prod.fst).Nodup) : find? k es = some a ↔ (k, a) ∈ es := by
  induction es with
  | nil => simp [find?]
  | cons e es ih =>
      obtain ⟨hne, hes⟩ := List.nodup_cons.1 h
      rw [find?, List.mem_cons]
      by_cases he : e.1 = k
      · have hnot : (k, a) ∉ es := fun hm => hne (he ▸ List.mem_map_of_mem hm)
        rw [if_pos he, or_iff_left hnot, Option.some_inj, Prod.ext_iff]
        exact ⟨fun ha => ⟨he.symm, ha.symm⟩, fun hp => hp.2.symm⟩
      · rw [if_neg he, ih hes]
        exact (or_iff_right fun hp => he (congrArg Prod.fst hp).symm).symm

/-- The entries are what can be looked up. -/
theorem mem_entries_iff (t : Table κ α) {k : κ} {a : α} :
    (k, a) ∈ t.entries ↔ t.get? k = some a :=
  (find?_eq_some_iff t.nodup).symm

@[simp] theorem get?_empty (k : κ) : (empty : Table κ α).get? k = none := rfl

@[simp] theorem get?_erase_self (t : Table κ α) (k : κ) : (t.erase k).get? k = none :=
  find?_filter_self k t.entries

theorem get?_erase_ne (t : Table κ α) {k l : κ} (h : l ≠ k) : (t.erase k).get? l = t.get? l :=
  find?_filter_ne h t.entries

@[simp] theorem get?_set_self (t : Table κ α) (k : κ) (a : α) : (t.set k a).get? k = some a := by
  simp [get?, set, find?]

theorem get?_set_ne (t : Table κ α) {k l : κ} (a : α) (h : l ≠ k) :
    (t.set k a).get? l = t.get? l := by
  rw [get?, set, find?, if_neg (fun e => h e.symm)]
  exact t.get?_erase_ne h

end Table

end PerlLint
