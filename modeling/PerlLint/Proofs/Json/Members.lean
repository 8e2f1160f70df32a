import Mathlib.Data.List.Nodup
import Mathlib.Data.String.Basic
import PerlLint.Json.Basic

/-!
# The order of members

An object has its members in the order of their keys, in whatever order they were written: members
whose keys differ may be set in any order (`insert_comm`), and members that are in order already
stay as they are (`ofList_eq_self`).  Setting a key keeps the order (`Sorted.insert`), so every
object that was made of members has them in order.
-/

namespace PerlLint.Json.Members

/-- The members are in the order of their keys, and no key comes twice. -/
def Sorted (ms : Members) : Prop := ms.Pairwise fun m m' => m.1 < m'.1

variable {ms ms' base : Members} {k k' : String} {v v' : Json}

theorem insert_cons_lt (w : Json) (ms : Members) (h : k < k') :
    insert ((k', w) :: ms) k v = (k, v) :: (k', w) :: ms := by
  rw [insert, if_neg h.ne', if_pos h]

theorem insert_cons_self (w : Json) (ms : Members) :
    insert ((k, w) :: ms) k v = (k, v) :: ms := by
  rw [insert, if_pos rfl]

theorem insert_cons_gt (w : Json) (ms : Members) (h : k' < k) :
    insert ((k', w) :: ms) k v = (k', w) :: insert ms k v := by
  rw [insert, if_neg h.ne, if_neg h.not_gt]

/-- Of two keys the smaller one may be set first or last. -/
theorem insert_comm_of_lt (h : k < k') :
    (ms.insert k v).insert k' v' = (ms.insert k' v').insert k v := by
  induction ms with
  | nil =>
      change insert [(k, v)] k' v' = insert [(k', v')] k v
      rw [insert_cons_gt _ _ h, insert_cons_lt _ _ h]
      rfl
  | cons m ms ih =>
      obtain ⟨l, w⟩ := m
      rcases lt_trichotomy k' l with hlt | rfl | hgt
      · rw [insert_cons_lt _ _ hlt, insert_cons_lt _ _ (h.trans hlt), insert_cons_gt _ _ h,
          insert_cons_lt _ _ hlt, insert_cons_lt _ _ h]
      · rw [insert_cons_self, insert_cons_lt _ _ h, insert_cons_gt _ _ h, insert_cons_self,
          insert_cons_lt _ _ h]
      · rw [insert_cons_gt _ _ hgt]
        rcases lt_trichotomy k l with hkl | rfl | hlk
        · rw [insert_cons_lt _ _ hkl, insert_cons_lt _ _ hkl, insert_cons_gt _ _ h,
            insert_cons_gt _ _ hgt]
        · rw [insert_cons_self, insert_cons_self, insert_cons_gt _ _ h]
        · rw [insert_cons_gt _ _ hlk, insert_cons_gt _ _ hlk, insert_cons_gt _ _ hgt, ih]

/-- Two keys may be set in either order. -/
theorem insert_comm (h : k ≠ k') :
    (ms.insert k v).insert k' v' = (ms.insert k' v').insert k v := by
  rcases lt_or_gt_of_ne h with hlt | hgt
  · exact insert_comm_of_lt hlt
  · exact (insert_comm_of_lt hgt).symm

/-- A key that comes after all others is set at the end. -/
theorem insert_eq_append (h : ∀ m ∈ ms, m.1 < k) : ms.insert k v = ms ++ [(k, v)] := by
  induction ms with
  | nil => rfl
  | cons m ms ih =>
      rw [insert_cons_gt _ _ (h m (.head _)), ih fun m' hm' => h m' (.tail _ hm')]
      rfl

theorem overlay_eq_append (h : Sorted (base ++ ms)) : base.overlay ms = base ++ ms := by
  induction ms generalizing base with
  | nil => exact (List.append_nil base).symm
  | cons m ms ih =>
      have hm : ∀ m' ∈ base, m'.1 < m.1 := fun m' hm' =>
        (List.pairwise_append.1 h).2.2 m' hm' m (.head _)
      have hnext : Sorted (base ++ [m] ++ ms) := by
        rw [List.append_assoc]
        exact h
      rw [overlay, List.foldl_cons, insert_eq_append hm, ← overlay, ih hnext, List.append_assoc]
      rfl

/-- Members that are in order stay as they are. -/
theorem ofList_eq_self (h : Sorted ms) : ofList ms = ms := overlay_eq_append h

/-- Members with different keys may be set in any order. -/
theorem ofList_perm (h : ms.Perm ms') (hms : (ms.map Prod.fst).Nodup) : ofList ms = ofList ms' := by
  refine h.foldl_eq' (fun m hm m' hm' base => ?_) []
  by_cases hk : m.1 = m'.1
  · rw [List.inj_on_of_nodup_map hms hm hm' hk]
  · exact insert_comm hk

theorem Sorted.nodup (h : Sorted ms) : (ms.map Prod.fst).Nodup := by
  rw [List.Nodup, List.pairwise_map]
  exact h.imp fun hlt => hlt.ne

/-- Members in any order make the object that has them in order. -/
theorem ofList_of_perm (h : ms.Perm ms') (hs : Sorted ms') : ofList ms = ms' := by
  have hnodup : (ms.map Prod.fst).Nodup := (h.map Prod.fst).nodup_iff.2 hs.nodup
  rw [ofList_perm h hnodup, ofList_eq_self hs]

/-! ## Members that were put in order -/

theorem mem_insert {m : String × Json} {key : String} (h : m ∈ base.insert key v) :
    m = (key, v) ∨ m ∈ base := by
  induction base with
  | nil => exact .inl (List.mem_singleton.1 h)
  | cons m' base ih =>
      obtain ⟨k, w⟩ := m'
      rw [insert] at h
      split at h
      · exact (List.mem_cons.1 h).imp_right (.tail _)
      · split at h
        · exact List.mem_cons.1 h
        · rcases List.mem_cons.1 h with h | h
          · exact .inr (h ▸ .head _)
          · exact (ih h).imp_right (.tail _)

/-- Setting a key keeps the order. -/
theorem Sorted.insert (h : Sorted base) (key : String) (v : Json) :
    Sorted (base.insert key v) := by
  induction base with
  | nil => exact List.pairwise_singleton _ _
  | cons m base ih =>
      obtain ⟨k, w⟩ := m
      obtain ⟨hfirst, hrest⟩ := List.pairwise_cons.1 h
      rcases lt_trichotomy key k with hlt | rfl | hgt
      · rw [insert_cons_lt w base hlt]
        refine List.pairwise_cons.2 ⟨?_, h⟩
        intro m hm
        rcases List.mem_cons.1 hm with rfl | hm
        · exact hlt
        · exact hlt.trans (hfirst m hm)
      · rw [insert_cons_self]
        exact List.pairwise_cons.2 ⟨hfirst, hrest⟩
      · rw [insert_cons_gt w base hgt]
        refine List.pairwise_cons.2 ⟨?_, ih hrest⟩
        intro m hm
        rcases mem_insert hm with rfl | hm
        · exact hgt
        · exact hfirst m hm

/-- Members that were put in order are in order. -/
theorem sorted_ofList (ms : Members) : Sorted (ofList ms) := by
  have hoverlay : ∀ {base : Members}, Sorted base → Sorted (base.overlay ms) := by
    induction ms with
    | nil => exact id
    | cons m ms ih => exact fun h => ih (h.insert m.1 m.2)
  exact hoverlay .nil

/-- No member comes from elsewhere. -/
theorem mem_of_mem_ofList {m : String × Json} (h : m ∈ ofList ms) : m ∈ ms := by
  have hoverlay : ∀ {base : Members}, m ∈ base.overlay ms → m ∈ base ∨ m ∈ ms := by
    clear h
    induction ms with
    | nil => exact .inl
    | cons m' ms ih =>
        intro base h
        rcases ih h with h | h
        · exact (mem_insert h).elim (fun hm => .inr (hm ▸ .head _)) .inl
        · exact .inr (.tail _ h)
  exact (hoverlay h).resolve_left nofun

end PerlLint.Json.Members
