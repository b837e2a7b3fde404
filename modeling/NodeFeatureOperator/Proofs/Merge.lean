import NodeFeatureOperator.Proofs.Documents

/-!
# Laws of laying documents over one another

A document holds what was laid over it (`Json.covered_merge`), and a document that holds all that
is asked for is left alone (`Json.merge_of_covered`), so that a second merge changes nothing. The
second law needs that the names of every object stand in order (`Json.ordered`), as they do in every
document that a store hands out; a merge keeps the order (`Json.ordered_merge`).
-/

namespace NodeFeatureOperator

namespace Json

/-- What is inherited from the items of arrays and from the fields of objects holds of every
document. -/
@[elab_as_elim]
theorem induct {motive : Json → Prop} (null : motive .null) (bool : ∀ b, motive (.bool b))
    (int : ∀ i, motive (.int i)) (float : ∀ bits, motive (.float bits))
    (str : ∀ s, motive (.str s)) (arr : ∀ xs, (∀ x ∈ xs, motive x) → motive (.arr xs))
    (obj : ∀ fs, (∀ row ∈ fs, motive row.2) → motive (.obj fs)) (j : Json) : motive j :=
  Json.rec (motive_1 := motive) (motive_2 := fun xs => ∀ x ∈ xs, motive x)
    (motive_3 := fun fs => ∀ row ∈ fs, motive row.2) (motive_4 := fun row => motive row.2)
    null bool int float str arr obj (by simp)
    (fun _ _ hx hxs => List.forall_mem_cons.2 ⟨hx, hxs⟩) (by simp)
    (fun _ _ hrow hfs => List.forall_mem_cons.2 ⟨hrow, hfs⟩) (fun _ _ h => h) j

/-! ## Order -/

mutual

/-- Whether the names of every object in the document stand in order. -/
def ordered : Json → Bool
  | .arr xs => orderedItems xs
  | .obj fs => Table.ascending fs && orderedFields fs
  | _ => true

/-- Whether all items are in order. -/
def orderedItems : List Json → Bool
  | [] => true
  | x :: xs => ordered x && orderedItems xs

/-- Whether the documents of all fields are in order. -/
def orderedFields : List (String × Json) → Bool
  | [] => true
  | (_, v) :: fs => ordered v && orderedFields fs

end

variable {l d : Json} {ls ds : Fields}

theorem ordered_arr {xs : List Json} :
    (Json.arr xs).ordered = true ↔ ∀ x ∈ xs, x.ordered = true := by
  rw [ordered]
  induction xs with
  | nil => simp [orderedItems]
  | cons x xs ih => simp [orderedItems, ih]

theorem ordered_obj : (Json.obj ls).ordered = true ↔
    ls.Sorted ∧ ∀ row ∈ ls, row.2.ordered = true := by
  have hfields : orderedFields ls = true ↔ ∀ row ∈ ls, row.2.ordered = true := by
    induction ls with
    | nil => simp [orderedFields]
    | cons row ls ih => simp [orderedFields, ih]
  rw [ordered, Bool.and_eq_true, ← Table.sorted_iff_ascending, hfields]

theorem ordered_of_get? (h : (Json.obj ls).ordered = true) {name : String}
    (hl : Table.get? ls name = some l) : l.ordered = true :=
  (ordered_obj.1 h).2 _ (Table.mem_of_get? hl)

/-- Rows in order whose documents are in order make an object in order. -/
theorem ordered_obj_of_get? (hls : ls.Sorted)
    (h : ∀ name l, Table.get? ls name = some l → l.ordered = true) :
    (Json.obj ls).ordered = true :=
  ordered_obj.2 ⟨hls, fun row hrow => h row.1 row.2 (hls.get?_of_mem hrow)⟩

theorem mergeFields_sorted (hls : ls.Sorted) (ds : Fields) : (mergeFields ls ds).Sorted := by
  induction ds generalizing ls with
  | nil => exact hls
  | cons row ds ih =>
    rw [mergeFields]
    split
    · exact ih (hls.insert _ _)
    · exact ih (hls.insert _ _)

theorem mergeItems_eq_zipWith (xs ys : List Json) : mergeItems xs ys = xs.zipWith merge ys := by
  induction ys generalizing xs with
  | nil => simp [mergeItems]
  | cons y ys ih =>
    cases xs with
    | nil => rfl
    | cons x xs => rw [mergeItems, ih, List.zipWith_cons_cons]

/-- A merge takes a document as it is unless both are objects or both are arrays of one length. -/
theorem merge_cases (l d : Json) :
    (∃ ls ds, l = .obj ls ∧ d = .obj ds ∧ merge l d = .obj (mergeFields ls ds)) ∨
    (∃ xs ys, l = .arr xs ∧ d = .arr ys ∧ xs.length = ys.length ∧
      merge l d = .arr (xs.zipWith merge ys)) ∨ merge l d = d := by
  cases d with
  | obj ds =>
    cases l with
    | obj ls => exact Or.inl ⟨ls, ds, rfl, rfl, rfl⟩
    | _ => exact Or.inr (Or.inr rfl)
  | arr ys =>
    cases l with
    | arr xs =>
      right
      by_cases hlen : xs.length = ys.length
      · exact Or.inl ⟨xs, ys, rfl, rfl, hlen, by rw [merge, if_pos hlen, mergeItems_eq_zipWith]⟩
      · exact Or.inr (by rw [merge, if_neg hlen])
    | _ => exact Or.inr (Or.inr rfl)
  | _ => exact Or.inr (Or.inr rfl)

theorem merge_null (d : Json) : merge .null d = d := by
  cases d <;> rfl

/-- Only null is laid over anything as null. -/
theorem merge_ne_null (l : Json) (hd : d ≠ .null) : merge l d ≠ .null := by
  rcases merge_cases l d with ⟨_, _, -, -, hmerge⟩ | ⟨_, _, -, -, -, hmerge⟩ | hmerge
  · simp [hmerge]
  · simp [hmerge]
  · rwa [hmerge]

theorem ordered_merge (hl : l.ordered = true) (hd : d.ordered = true) :
    (merge l d).ordered = true := by
  induction d using induct generalizing l with
  | null | bool | int | float | str => rfl
  | arr ys ih =>
    rcases merge_cases l (.arr ys) with ⟨_, _, -, ⟨⟩, -⟩ | ⟨xs, _, rfl, ⟨⟩, -, hmerge⟩ | hmerge
    · rw [hmerge, ordered_arr]
      intro z hz
      rw [List.mem_iff_getElem] at hz
      obtain ⟨n, hn, rfl⟩ := hz
      rw [List.getElem_zipWith]
      have hx := ordered_arr.1 hl _ (List.getElem_mem (List.lt_length_left_of_zipWith hn))
      have hy := List.getElem_mem (List.lt_length_right_of_zipWith hn)
      exact ih _ hy hx (ordered_arr.1 hd _ hy)
    · rwa [hmerge]
  | obj ds ih =>
    rcases merge_cases l (.obj ds) with ⟨ls, _, rfl, ⟨⟩, hmerge⟩ | ⟨_, _, -, ⟨⟩, -⟩ | hmerge
    · obtain ⟨hds, hvalues⟩ := ordered_obj.1 hd
      rw [hmerge]
      refine ordered_obj_of_get? (mergeFields_sorted (ordered_obj.1 hl).1 ds) ?_
      intro name v hv
      rw [get?_mergeFields _ _ hds.names_nodup] at hv
      cases hfound : Table.get? ds name with
      | none =>
        rw [hfound] at hv
        exact ordered_of_get? hl hv
      | some d =>
        have hmem := Table.mem_of_get? hfound
        rw [hfound] at hv
        obtain rfl := Option.some.inj hv
        cases hbase : Table.get? ls name with
        | none => exact hvalues _ hmem
        | some b => exact ih _ hmem (ordered_of_get? hl hbase) (hvalues _ hmem)
    · rwa [hmerge]

/-! ## Coverage -/

theorem coveredFields_iff : CoveredFields ls ds = true ↔
    ∀ row ∈ ds, ∃ l, Table.get? ls row.1 = some l ∧ Covered l row.2 = true := by
  induction ds with
  | nil => simp [CoveredFields]
  | cons row ds ih =>
    rw [CoveredFields, List.forall_mem_cons, ← ih]
    cases Table.get? ls row.1 with
    | none => simp
    | some l => simp

theorem coveredItems_of_getElem {xs ys : List Json} (hlen : xs.length = ys.length)
    (h : ∀ n (hx : n < xs.length) (hy : n < ys.length), Covered xs[n] ys[n] = true) :
    CoveredItems xs ys = true := by
  induction ys generalizing xs with
  | nil => rfl
  | cons y ys ih =>
    cases xs with
    | nil => simp at hlen
    | cons x xs =>
      rw [CoveredItems, Bool.and_eq_true]
      refine ⟨h 0 (Nat.zero_lt_succ _) (Nat.zero_lt_succ _),
        ih (Nat.succ.inj hlen) fun n hx hy => ?_⟩
      exact h (n + 1) (Nat.succ_lt_succ hx) (Nat.succ_lt_succ hy)

/-- What was laid over a document is held by the outcome. -/
theorem covered_merge (hd : d.ordered = true) (l : Json) : Covered (merge l d) d = true := by
  induction d using induct generalizing l with
  | null | bool | int | float | str => simp [merge, Covered]
  | arr ys ih =>
    -- An item covers itself, for that is what becomes of laying it over null.
    have hself : ∀ y ∈ ys, Covered y y = true := fun y hy => by
      simpa only [merge_null] using ih y hy (ordered_arr.1 hd y hy) .null
    rcases merge_cases l (.arr ys) with ⟨_, _, -, ⟨⟩, -⟩ | ⟨xs, _, rfl, ⟨⟩, hlen, hmerge⟩ | hmerge
    · have hlen' : (xs.zipWith merge ys).length = ys.length := by simp [hlen]
      rw [hmerge, Covered, if_pos hlen']
      refine coveredItems_of_getElem hlen' fun n _ hn => ?_
      rw [List.getElem_zipWith]
      exact ih _ (List.getElem_mem hn) (ordered_arr.1 hd _ (List.getElem_mem hn)) _
    · rw [hmerge, Covered, if_pos rfl]
      exact coveredItems_of_getElem rfl fun n _ hn => hself _ (List.getElem_mem hn)
  | obj ds ih =>
    obtain ⟨hds, hvalues⟩ := ordered_obj.1 hd
    have hself : ∀ row ∈ ds, Covered row.2 row.2 = true := fun row hrow => by
      simpa only [merge_null] using ih row hrow (hvalues row hrow) .null
    rcases merge_cases l (.obj ds) with ⟨ls, _, rfl, ⟨⟩, hmerge⟩ | ⟨_, _, -, ⟨⟩, -⟩ | hmerge
    · rw [hmerge, Covered, coveredFields_iff]
      intro row hrow
      rw [get?_mergeFields _ _ hds.names_nodup, hds.get?_of_mem hrow]
      refine ⟨_, rfl, ?_⟩
      cases Table.get? ls row.1 with
      | none => exact hself row hrow
      | some b => exact ih row hrow (hvalues row hrow) b
    · rw [hmerge, Covered, coveredFields_iff]
      exact fun row hrow => ⟨row.2, hds.get?_of_mem hrow, hself row hrow⟩

theorem covered_self (hd : d.ordered = true) : Covered d d = true := by
  have h := covered_merge hd .null
  rwa [merge_null] at h

theorem getElem_of_coveredItems {xs ys : List Json} (h : CoveredItems xs ys = true) {n : Nat}
    (hx : n < xs.length) (hy : n < ys.length) : Covered xs[n] ys[n] = true := by
  induction ys generalizing xs n with
  | nil => simp at hy
  | cons y ys ih =>
    cases xs with
    | nil => simp at hx
    | cons x xs =>
      obtain ⟨hfirst, hrest⟩ := Bool.and_eq_true_iff.1 h
      cases n with
      | zero => exact hfirst
      | succ n => exact ih hrest (Nat.lt_of_succ_lt_succ hx) (Nat.lt_of_succ_lt_succ hy)

/-- A document that holds all that is laid over it stays as it is. -/
theorem merge_of_covered (hl : l.ordered = true) (hd : d.ordered = true)
    (h : Covered l d = true) : merge l d = l := by
  induction d using induct generalizing l with
  | null | bool | int | float | str => exact (of_decide_eq_true h).symm
  | arr ys ih =>
    cases l with
    | arr xs =>
      by_cases hlen : xs.length = ys.length
      · rw [Covered, if_pos hlen] at h
        rw [merge, if_pos hlen, mergeItems_eq_zipWith]
        refine congrArg Json.arr (List.ext_getElem (by simp [hlen]) fun n hn hn' => ?_)
        have hn'' : n < ys.length := hlen ▸ hn'
        rw [List.getElem_zipWith]
        exact ih _ (List.getElem_mem hn'') (ordered_arr.1 hl _ (List.getElem_mem hn'))
          (ordered_arr.1 hd _ (List.getElem_mem hn'')) (getElem_of_coveredItems h hn' hn'')
      · rw [Covered, if_neg hlen] at h
        cases h
    | _ => cases h
  | obj ds ih =>
    cases l with
    | obj ls =>
      rw [Covered, coveredFields_iff] at h
      obtain ⟨hls, hlive⟩ := ordered_obj.1 hl
      obtain ⟨hds, hvalues⟩ := ordered_obj.1 hd
      rw [merge]
      refine congrArg Json.obj ((mergeFields_sorted hls ds).ext hls fun name => ?_)
      rw [get?_mergeFields _ _ hds.names_nodup]
      cases hfound : Table.get? ds name with
      | none => rfl
      | some d =>
        have hmem := Table.mem_of_get? hfound
        obtain ⟨b, hb, hcovered⟩ := h _ hmem
        rw [show Table.get? ls name = some b from hb]
        exact congrArg some
          (ih _ hmem (hlive _ (Table.mem_of_get? hb)) (hvalues _ hmem) hcovered)
    | _ => cases h

theorem merge_self (hd : d.ordered = true) : merge d d = d :=
  merge_of_covered hd hd (covered_self hd)

/-- A second merge changes nothing. -/
theorem merge_merge (hl : l.ordered = true) (hd : d.ordered = true) :
    merge (merge l d) d = merge l d :=
  merge_of_covered (ordered_merge hl hd) hd (covered_merge hd l)

end Json

end NodeFeatureOperator
