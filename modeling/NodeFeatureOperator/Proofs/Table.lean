import NodeFeatureOperator.Table

/-!
# Rows and the order of tables

What a look-up finds is a row of the table, and a table whose keys stand in order has no other row
with the key (`get?_eq_some_iff`). Insertion and everything that only drops rows or changes values
keep the order. Of two values that are written under one key the last one stays
(`insert_insert`), and what is written under different keys can change places (`insert_comm`).
-/

namespace NodeFeatureOperator.Table

variable {κ α : Type} [DecidableEq κ] {t : Table κ α} {k : κ} {v : α}

/-! ## Rows and look-ups -/

theorem mem_of_get? (h : get? t k = some v) : (k, v) ∈ t := by
  induction t with
  | nil => simp at h
  | cons row t ih =>
    obtain ⟨k', v'⟩ := row
    rw [get?_cons] at h
    split at h
    · next hk =>
      subst hk
      rw [Option.some.inj h]
      exact List.mem_cons_self
    · exact List.mem_cons_of_mem _ (ih h)

theorem get?_eq_none_iff : get? t k = none ↔ ∀ row ∈ t, row.1 ≠ k := by
  induction t with
  | nil => simp
  | cons row t ih =>
    obtain ⟨k', v'⟩ := row
    rw [get?_cons]
    by_cases hk : k' = k
    · simp [hk]
    · simp [hk, ih]

theorem contains_eq_false_iff : contains t k = false ↔ get? t k = none := by
  unfold contains
  exact Option.isSome_eq_false_iff.trans Option.isNone_iff_eq_none

/-- A table in which nothing is found is empty. -/
theorem eq_nil_of_get?_eq_none (h : ∀ k, get? t k = none) : t = [] := by
  rw [List.eq_nil_iff_forall_not_mem]
  intro row hrow
  exact get?_eq_none_iff.1 (h row.1) row hrow rfl

theorem get?_filter_eq_none {p : κ × α → Bool} (h : get? t k = none) :
    get? (t.filter p) k = none := by
  rw [get?_eq_none_iff] at h ⊢
  exact fun row hrow => h row ((List.mem_filter.1 hrow).1)

/-- A filter keeps what it finds good. -/
theorem get?_filter_of_pos {p : κ × α → Bool} (h : get? t k = some v) (hp : p (k, v) = true) :
    get? (t.filter p) k = some v := by
  induction t with
  | nil => simp at h
  | cons row t ih =>
    obtain ⟨k', v'⟩ := row
    rw [get?_cons] at h
    split at h
    · next hk =>
      subst hk
      obtain rfl := Option.some.inj h
      rw [List.filter_cons_of_pos hp, get?_cons]
      simp
    · next hk =>
      rw [List.filter_cons]
      split
      · rw [get?_cons]
        simp only [hk, if_false]
        exact ih h
      · exact ih h

/-- A row that goes anyway need not be written. -/
theorem erase_insert [Ord κ] (t : Table κ α) (k : κ) (v : α) :
    erase (insert t k v) k = erase t k := by
  induction t with
  | nil => simp [insert, erase]
  | cons row t ih =>
    obtain ⟨k', v'⟩ := row
    unfold insert
    split
    · next hk => simp [erase, hk]
    · next hk =>
      split
      · simp [erase]
      · unfold erase at ih ⊢
        rw [List.filter_cons, List.filter_cons, ih]

theorem erase_eq_self (h : get? t k = none) : erase t k = t := by
  rw [get?_eq_none_iff] at h
  exact List.filter_eq_self.2 fun row hrow => by simp [h row hrow]

theorem erase_modify (t : Table κ α) (k : κ) (f : α → α) : erase (modify t k f) k = erase t k := by
  induction t with
  | nil => rfl
  | cons row t ih =>
    unfold erase modify at ih ⊢
    rw [List.map_cons, List.filter_cons, List.filter_cons, ih]
    by_cases hk : row.1 = k <;> simp [hk]

theorem mem_insert [Ord κ] {row : κ × α} (h : row ∈ insert t k v) : row = (k, v) ∨ row ∈ t := by
  induction t with
  | nil => exact Or.inl (List.mem_singleton.1 h)
  | cons row' t ih =>
    obtain ⟨k', v'⟩ := row'
    simp only [insert] at h
    split at h
    · exact (List.mem_cons.1 h).imp_right (List.mem_cons_of_mem _)
    · split at h
      · exact List.mem_cons.1 h
      · rcases List.mem_cons.1 h with rfl | h
        · exact Or.inr List.mem_cons_self
        · exact (ih h).imp_right (List.mem_cons_of_mem _)

theorem get?_map {β : Type} (t : Table κ α) (f : κ → α → β) (k : κ) :
    get? (t.map fun row => (row.1, f row.1 row.2)) k = (get? t k).map (f k) := by
  induction t with
  | nil => rfl
  | cons row t ih =>
    obtain ⟨k', v⟩ := row
    rw [List.map_cons, get?_cons, get?_cons]
    split
    · next hk =>
      subst hk
      rfl
    · exact ih

theorem modify_eq_map (t : Table κ α) (k : κ) (f : α → α) :
    modify t k f = t.map fun row => (row.1, if row.1 = k then f row.2 else row.2) := by
  unfold modify
  refine List.map_congr_left fun row _ => ?_
  split <;> rfl

/-! ## Rows that are written again -/

variable {a b : κ}

theorem insert_insert [Ord κ] (t : Table κ α) (k : κ) (v w : α) :
    insert (insert t k v) k w = insert t k w := by
  induction t with
  | nil => simp [insert]
  | cons row t ih =>
    obtain ⟨k', v'⟩ := row
    by_cases hk : k' = k
    · simp [insert, hk]
    · by_cases hlt : compare k k' = .lt
      · simp [insert, hk, hlt]
      · simp [insert, hk, hlt, ih]

theorem insert_comm_of_lt [Ord κ] [Std.TransOrd κ] [Std.LawfulEqOrd κ] (t : Table κ α)
    (hlt : compare a b = .lt) (v w : α) :
    insert (insert t a v) b w = insert (insert t b w) a v := by
  have hgt : compare b a ≠ .lt := by
    rw [@Std.OrientedCmp.eq_swap κ compare _ b a, hlt]
    decide
  have hne : a ≠ b := by
    rintro rfl
    exact hgt hlt
  induction t with
  | nil => simp [insert, hne, hne.symm, hlt, hgt]
  | cons row t ih =>
    obtain ⟨k, x⟩ := row
    by_cases ha : k = a
    · subst ha
      simp [insert, hne, hgt]
    · by_cases hb : k = b
      · subst hb
        simp [insert, hne, hne.symm, hlt, hgt]
      · by_cases hak : compare a k = .lt
        · by_cases hbk : compare b k = .lt <;>
            simp [insert, ha, hb, hne, hne.symm, hlt, hgt, hak, hbk]
        · have hbk : compare b k ≠ .lt := fun hbk => hak (Std.TransCmp.lt_trans hlt hbk)
          simp [insert, ha, hb, hak, hbk, ih]

theorem insert_comm [Ord κ] [Std.TransOrd κ] [Std.LawfulEqOrd κ] (t : Table κ α) (h : a ≠ b)
    (v w : α) : insert (insert t a v) b w = insert (insert t b w) a v := by
  cases hc : compare a b with
  | lt => exact insert_comm_of_lt t hc v w
  | eq => exact absurd (Std.LawfulEqCmp.eq_of_compare hc) h
  | gt => exact (insert_comm_of_lt t (Std.OrientedCmp.lt_of_gt hc) w v).symm

theorem modify_insert [Ord κ] (t : Table κ α) (h : a ≠ b) (f : α → α) (v : α) :
    modify (insert t b v) a f = insert (modify t a f) b v := by
  have hcons (k : κ) (x : α) (t : Table κ α) :
      modify ((k, x) :: t) a f = (k, if k = a then f x else x) :: modify t a f := by
    unfold modify
    rw [List.map_cons]
    split <;> rfl
  induction t with
  | nil => simp [insert, modify, h.symm]
  | cons row t ih =>
    obtain ⟨k, x⟩ := row
    rw [hcons, insert, insert]
    split
    · rw [hcons, if_neg h.symm]
    · split
      · rw [hcons, hcons, if_neg h.symm]
      · rw [hcons, ih]

theorem modify_modify (t : Table κ α) (k : κ) (f g : α → α) :
    modify (modify t k f) k g = modify t k fun v => g (f v) := by
  unfold modify
  rw [List.map_map]
  refine List.map_congr_left fun row _ => ?_
  by_cases hk : row.1 = k <;> simp [hk]

theorem modify_comm (t : Table κ α) (h : a ≠ b) (f g : α → α) :
    modify (modify t a f) b g = modify (modify t b g) a f := by
  unfold modify
  rw [List.map_map, List.map_map]
  refine List.map_congr_left fun row _ => ?_
  by_cases ha : row.1 = a <;> by_cases hb : row.1 = b <;> simp_all

/-! ## Tables in order -/

/-- The keys of the table stand in strict order. -/
def Sorted [Ord κ] (t : Table κ α) : Prop := t.Pairwise fun r s => compare r.1 s.1 = .lt

instance [Ord κ] (t : Table κ α) : Decidable (Sorted t) :=
  inferInstanceAs (Decidable (t.Pairwise fun r s => compare r.1 s.1 = .lt))

/-- Whether every key comes before the next one. -/
def ascending [Ord κ] : Table κ α → Bool
  | r :: s :: t => decide (compare r.1 s.1 = .lt) && ascending (s :: t)
  | _ => true

omit [DecidableEq κ] in
/-- It is enough to compare neighbours. -/
theorem sorted_iff_ascending [Ord κ] [Std.TransOrd κ] : Sorted t ↔ ascending t = true := by
  induction t with
  | nil => exact iff_of_true List.Pairwise.nil rfl
  | cons r t ih =>
    cases t with
    | nil => exact iff_of_true (List.pairwise_singleton _ _) rfl
    | cons s t =>
      rw [ascending, Bool.and_eq_true, decide_eq_true_eq, ← ih]
      unfold Sorted
      rw [List.pairwise_cons]
      constructor
      · rintro ⟨hhead, htail⟩
        exact ⟨hhead s List.mem_cons_self, htail⟩
      · rintro ⟨hlt, htail⟩
        refine ⟨fun row hrow => ?_, htail⟩
        rcases List.mem_cons.1 hrow with rfl | hrow
        · exact hlt
        · exact Std.TransCmp.lt_trans hlt ((List.pairwise_cons.1 htail).1 row hrow)

namespace Sorted

variable [Ord κ]

omit [DecidableEq κ] in
/-- A table is in order if its keys are taken out of a list in order. -/
theorem of_sublist {keys : List κ} (hkeys : keys.Pairwise fun a b => compare a b = .lt)
    (h : (t.map (·.1)).Sublist keys) : Sorted t :=
  List.pairwise_map.1 (hkeys.sublist h)

omit [DecidableEq κ] in
theorem filter (h : Sorted t) (p : κ × α → Bool) : Sorted (t.filter p) :=
  List.Pairwise.filter p h

theorem erase (h : Sorted t) (k : κ) : Sorted (Table.erase t k) := h.filter _

omit [DecidableEq κ] in
theorem map {β : Type} (h : Sorted t) (f : κ → α → β) :
    Sorted (t.map fun row => (row.1, f row.1 row.2)) :=
  List.pairwise_map.2 h

theorem modify (h : Sorted t) (k : κ) (f : α → α) : Sorted (Table.modify t k f) := by
  rw [modify_eq_map]
  exact h.map fun k' v => if k' = k then f v else v

variable [Std.LawfulEqOrd κ]

/-- In a table in order a row is what the look-up of its key finds. -/
theorem get?_of_mem (h : Sorted t) (hm : (k, v) ∈ t) : get? t k = some v := by
  induction t with
  | nil => cases hm
  | cons row t ih =>
    obtain ⟨k', v'⟩ := row
    obtain ⟨hhead, htail⟩ := List.pairwise_cons.1 h
    rw [get?_cons]
    rcases List.mem_cons.1 hm with heq | hm
    · obtain ⟨rfl, rfl⟩ := Prod.mk.inj heq
      simp
    · have hne : k' ≠ k := by
        rintro rfl
        have hlt := hhead _ hm
        rw [@Std.ReflCmp.compare_self κ compare _ _] at hlt
        cases hlt
      simp only [hne, if_false]
      exact ih htail hm

theorem get?_eq_some_iff (h : Sorted t) : get? t k = some v ↔ (k, v) ∈ t :=
  ⟨mem_of_get?, h.get?_of_mem⟩

/-- In a table in order a filter finds what was found before and is good. -/
theorem get?_filter (h : Sorted t) {p : κ × α → Bool} :
    get? (t.filter p) k = some v ↔ get? t k = some v ∧ p (k, v) = true := by
  rw [(h.filter p).get?_eq_some_iff, h.get?_eq_some_iff, List.mem_filter]

theorem get?_filter_eq (h : Sorted t) {p : κ × α → Bool} :
    get? (t.filter p) k = (get? t k).filter fun v => p (k, v) := by
  refine Option.ext fun v => ?_
  rw [h.get?_filter, Option.filter_eq_some_iff]

omit [DecidableEq κ] in
theorem names_nodup (h : Sorted t) : (t.map (·.1)).Nodup := by
  refine List.pairwise_map.2 (List.Pairwise.imp ?_ h)
  intro r s hrs heq
  rw [heq, @Std.ReflCmp.compare_self κ compare _ _] at hrs
  cases hrs

omit [DecidableEq κ] in
theorem nodup (h : Sorted t) : t.Nodup :=
  (List.pairwise_map.1 h.names_nodup).imp fun hne heq => hne (congrArg Prod.fst heq)

variable [Std.TransOrd κ]

theorem insert (h : Sorted t) (k : κ) (v : α) : Sorted (Table.insert t k v) := by
  induction t with
  | nil => exact List.pairwise_singleton _ _
  | cons row t ih =>
    obtain ⟨k', v'⟩ := row
    obtain ⟨hhead, htail⟩ := List.pairwise_cons.1 h
    simp only [Table.insert]
    split
    · next hk =>
      subst hk
      exact List.pairwise_cons.2 ⟨hhead, htail⟩
    · next hk =>
      split
      · next hlt =>
        refine List.pairwise_cons.2 ⟨fun row hrow => ?_, h⟩
        rcases List.mem_cons.1 hrow with rfl | hrow
        · exact hlt
        · exact Std.TransCmp.lt_trans hlt (hhead row hrow)
      · next hlt =>
        refine List.pairwise_cons.2 ⟨fun row hrow => ?_, ih htail⟩
        rcases mem_insert hrow with rfl | hrow
        · change compare k' k = .lt
          rw [@Std.OrientedCmp.eq_swap κ compare _ k' k, Ordering.swap_eq_lt]
          cases hc : compare k k' with
          | lt => exact absurd hc hlt
          | eq => exact absurd (Std.LawfulEqCmp.eq_of_compare hc).symm hk
          | gt => rfl
        · exact hhead row hrow

/-- Tables in order in which the same is found are the same. -/
theorem ext {s : Table κ α} (hs : Sorted s) (ht : Sorted t) (h : ∀ k, get? s k = get? t k) :
    s = t := by
  have hmem : ∀ row, row ∈ s ↔ row ∈ t := by
    rintro ⟨k, v⟩
    rw [← hs.get?_eq_some_iff, ← ht.get?_eq_some_iff, h k]
  have hperm : s.Perm t := (List.perm_ext_iff_of_nodup hs.nodup ht.nodup).2 hmem
  refine List.Perm.eq_of_pairwise (fun r r' _ _ hlt hgt => ?_) hs ht hperm
  rw [@Std.OrientedCmp.eq_swap κ compare _ r.1 r'.1, hgt] at hlt
  cases hlt

/-- A row that is there need not be written. -/
theorem insert_eq_self (h : Sorted t) (hk : get? t k = some v) : Table.insert t k v = t := by
  refine (h.insert k v).ext h fun k' => ?_
  rw [get?_insert]
  split
  · next heq => rw [← heq, hk]
  · rfl

/-- A row need not be changed by what leaves its value as it is. -/
theorem modify_eq_self (h : Sorted t) {f : α → α} (hf : ∀ v, get? t k = some v → f v = v) :
    Table.modify t k f = t := by
  refine (h.modify k f).ext h fun k' => ?_
  rw [get?_modify]
  split
  · next heq =>
    subst heq
    cases hv : get? t k with
    | none => rfl
    | some v => exact congrArg some (hf v hv)
  · rfl

end Sorted

end NodeFeatureOperator.Table
