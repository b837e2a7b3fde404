import NodeFeatureOperator.Proofs.Merge

/-!
# Documents in normal form

A document is normal for a schema when it is its own normal form and its names stand in order
(`Schema.Normal`). For a record this is a condition on every single name (`Schema.normal_record`),
so that changes of documents can be followed name by name: laying one normal document over another
gives a normal one (`Schema.Normal.merge`), and so does a change at one place that is normal for the
schema of the place (`Schema.Stable`).
-/

namespace NodeFeatureOperator

namespace Schema

/-- What is inherited from items, values and fields holds of every schema. -/
@[elab_as_elim]
theorem induct {motive : Schema → Prop} (text : motive .text) (boolean : motive .boolean)
    (int32 : motive .int32) (int64 : motive .int64) (intOrText : motive .intOrText)
    (base64 : motive .base64) (time : motive .time) (microTime : motive .microTime)
    (anything : motive .anything) (list : ∀ s, motive s → motive (.list s))
    (table : ∀ s, motive s → motive (.table s))
    (record : ∀ fields, (∀ row ∈ fields, motive row.2.2) → motive (.record fields)) (s : Schema) :
    motive s :=
  Schema.rec (motive_1 := motive) (motive_2 := fun fields => ∀ row ∈ fields, motive row.2.2)
    (motive_3 := fun row => motive row.2.2) (motive_4 := fun field => motive field.2)
    text boolean int32 int64 intOrText base64 time microTime anything list table record (by simp)
    (fun _ _ hrow hfields => List.forall_mem_cons.2 ⟨hrow, hfields⟩) (fun _ _ h => h)
    (fun _ _ h => h) s

mutual

/-- Whether the names of every record in the schema stand in order. -/
def ordered : Schema → Bool
  | .list s => ordered s
  | .table s => ordered s
  | .record fields => Table.ascending fields && orderedFields fields
  | _ => true

/-- Whether the schemas of all fields are in order. -/
def orderedFields : List (String × Presence × Schema) → Bool
  | [] => true
  | (_, _, s) :: fields => ordered s && orderedFields fields

end

/-- The fields of a record; other schemas have none. -/
def fields : Schema → List (String × Presence × Schema)
  | .record fields => fields
  | _ => []

variable {s t : Schema} {fields : List (String × Presence × Schema)} {fs out : Json.Fields}
  {name : String} {p : Presence} {j l d : Json}

theorem ordered_record : (record fields).ordered = true ↔
    Table.Sorted fields ∧ ∀ row ∈ fields, row.2.2.ordered = true := by
  have hfields : orderedFields fields = true ↔ ∀ row ∈ fields, row.2.2.ordered = true := by
    induction fields with
    | nil => simp [orderedFields]
    | cons row fields ih => simp [orderedFields, ih]
  rw [ordered, Bool.and_eq_true, ← Table.sorted_iff_ascending, hfields]

/-- Only a record has a schema for a name. -/
theorem eq_record_of_get? (h : Table.get? s.fields name = some (p, t)) : s = .record s.fields := by
  cases s with
  | record fields => rfl
  | _ => cases h

theorem ordered_of_get? (hs : s.ordered = true) (h : Table.get? s.fields name = some (p, t)) :
    t.ordered = true := by
  rw [eq_record_of_get? h] at hs
  exact (ordered_record.1 hs).2 _ (Table.mem_of_get? h)

/-- The schema at a path of names. -/
def at? (s : Schema) : List String → Option Schema
  | [] => some s
  | name :: path => (Table.get? s.fields name).bind fun field => field.2.at? path

theorem ordered_at? {path : List String} (hs : s.ordered = true) (h : s.at? path = some t) :
    t.ordered = true := by
  induction path generalizing s with
  | nil =>
    obtain rfl := Option.some.inj h
    exact hs
  | cons name path ih =>
    obtain ⟨field, hname, h⟩ := Option.bind_eq_some_iff.1 h
    exact ih (ordered_of_get? hs hname) h

/-! ## Fields of a record -/

/-- What becomes of a field, given what a document has under its name. -/
def field? (p : Presence) (s : Schema) : Option Json → Option (Option Json)
  | none => some (if p = .optional then none else some (default s))
  | some v =>
    if v = .null ∧ p = .optional then some none
    else if v = .null ∧ p = .required then some (some (default s))
    else (normalize? s v).map some

theorem normalizeFields?_cons_eq (name : String) (p : Presence) (s : Schema)
    (fields : List (String × Presence × Schema)) (fs : Json.Fields) :
    normalizeFields? ((name, p, s) :: fields) fs =
      (normalizeFields? fields fs).bind fun tail =>
        (field? p s (Table.get? fs name)).map fun v => Json.field name v ++ tail := by
  rw [normalizeFields?]
  refine congrArg _ (funext fun tail => ?_)
  cases Table.get? fs name with
  | none => cases p <;> rfl
  | some v => cases v <;> cases p <;> simp [field?, Json.field, Function.comp_def]

/-- A field keeps what it has if that is a normal form, unless it is a null that may be left out. -/
theorem field?_eq_self_iff {v : Option Json} : field? p s v = some v ↔
    match v with
    | none => p = .optional
    | some v => normalize? s v = some v ∧ (v = .null → p ≠ .optional) := by
  have hdefault : default s = .null ↔ normalize? s .null = some .null := by
    cases s <;> simp [default, normalize?]
  cases v with
  | none => cases p <;> simp [field?]
  | some v =>
    by_cases hv : v = .null
    · subst hv
      cases p <;> simp [field?, hdefault]
    · simp [field?, hv]

/-- The normal form of a record has nothing but the names of the record, and each of them as the
field makes it. -/
theorem get?_of_normalizeFields? (hfields : Table.Sorted fields)
    (h : normalizeFields? fields fs = some out) (name : String) :
    match Table.get? fields name with
    | none => Table.get? out name = none
    | some (p, s) => field? p s (Table.get? fs name) = some (Table.get? out name) := by
  induction fields generalizing out with
  | nil =>
    obtain rfl := Option.some.inj h
    rfl
  | cons row fields ih =>
    obtain ⟨name', p, s⟩ := row
    obtain ⟨hhead, htail⟩ := List.nodup_cons.1 hfields.names_nodup
    rw [normalizeFields?_cons_eq] at h
    obtain ⟨tail, hrest, h⟩ := Option.bind_eq_some_iff.1 h
    obtain ⟨v, hv, rfl⟩ := Option.map_eq_some_iff.1 h
    have ih := ih (List.pairwise_cons.1 hfields).2 hrest
    rw [Table.get?_append, Json.get?_field, Table.get?_cons]
    by_cases hname : name' = name
    · subst hname
      have habsent : Table.get? fields name' = none := by
        rw [Table.get?_eq_none_iff]
        exact fun row hrow heq => hhead (List.mem_map.2 ⟨row, hrow, heq⟩)
      rw [habsent] at ih
      simp only [if_true, show Table.get? tail name' = none from ih, Option.or_none]
      exact hv
    · simp only [hname, if_false, Option.none_or]
      exact ih

theorem normalizeFields?_names (h : normalizeFields? fields fs = some out) :
    (out.map (·.1)).Sublist (fields.map (·.1)) := by
  induction fields generalizing out with
  | nil =>
    obtain rfl := Option.some.inj h
    exact List.nil_sublist _
  | cons row fields ih =>
    obtain ⟨name, p, s⟩ := row
    rw [normalizeFields?_cons_eq] at h
    obtain ⟨tail, hrest, h⟩ := Option.bind_eq_some_iff.1 h
    obtain ⟨v, -, rfl⟩ := Option.map_eq_some_iff.1 h
    rw [List.map_append]
    exact (Json.names_field_sublist name v).append (ih hrest)

/-- The names of a normal form stand in the order of the record. -/
theorem normalizeFields?_sorted (hfields : Table.Sorted fields)
    (h : normalizeFields? fields fs = some out) : out.Sorted :=
  .of_sublist (List.pairwise_map.2 hfields) (normalizeFields?_names h)

/-- A record has a normal form if each of its fields has. -/
theorem normalizeFields?_of_fields
    (h : ∀ row ∈ fields, ∃ v, field? row.2.1 row.2.2 (Table.get? fs row.1) = some v) :
    ∃ out, normalizeFields? fields fs = some out := by
  induction fields with
  | nil => exact ⟨[], rfl⟩
  | cons row fields ih =>
    obtain ⟨⟨v, hv⟩, hfields⟩ := List.forall_mem_cons.1 h
    obtain ⟨tail, htail⟩ := ih hfields
    refine ⟨Json.field row.1 v ++ tail, ?_⟩
    rw [normalizeFields?_cons_eq, htail, Option.bind_some, hv]
    rfl

/-- Only what stands under the names of a record makes a difference to its normal form. -/
theorem normalizeFields?_congr {fs' : Json.Fields}
    (h : ∀ row ∈ fields, Table.get? fs row.1 = Table.get? fs' row.1) :
    normalizeFields? fields fs = normalizeFields? fields fs' := by
  induction fields with
  | nil => rfl
  | cons row fields ih =>
    obtain ⟨hrow, hfields⟩ := List.forall_mem_cons.1 h
    rw [normalizeFields?_cons_eq, normalizeFields?_cons_eq, ih hfields, hrow]

/-! ## Normal documents -/

/-- The document is its own normal form, and its names stand in order. -/
structure Normal (s : Schema) (j : Json) : Prop where
  fixed : s.normalize? j = some j
  ordered : j.ordered = true

instance (s : Schema) (j : Json) : Decidable (s.Normal j) :=
  decidable_of_iff (s.normalize? j = some j ∧ j.ordered = true)
    ⟨fun h => ⟨h.1, h.2⟩, fun h => ⟨h.1, h.2⟩⟩

/-- What may stand under a name of a normal record, given what the record says of the name. -/
def FieldNormal : Option (Presence × Schema) → Option Json → Prop
  | none, v => v = none
  | some (p, _), none => p = .optional
  | some (p, s), some v => s.Normal v ∧ (v = .null → p ≠ .optional)

/-- An optional field may be left out, and otherwise it takes what is normal and not null. -/
theorem fieldNormal_map {α : Type} {v : Option α} {f : α → Json}
    (h : ∀ a, v = some a → s.Normal (f a)) (hsolid : ∀ a, f a ≠ .null) :
    FieldNormal (some (.optional, s)) (v.map f) := by
  cases v with
  | none => rfl
  | some a => exact ⟨h a rfl, fun hnull => absurd hnull (hsolid a)⟩

theorem normal_record (hfields : Table.Sorted fields) : (record fields).Normal j ↔
    ∃ fs, j = .obj fs ∧ Table.Sorted fs ∧
      ∀ name, FieldNormal (Table.get? fields name) (Table.get? fs name) := by
  constructor
  · rintro ⟨hfixed, hordered⟩
    cases j with
    | obj fs =>
      rw [normalize?] at hfixed
      obtain ⟨out, hout, heq⟩ := Option.map_eq_some_iff.1 hfixed
      obtain rfl := Json.obj.inj heq
      refine ⟨out, rfl, (Json.ordered_obj.1 hordered).1, fun name => ?_⟩
      have hget := get?_of_normalizeFields? hfields hout name
      cases hf : Table.get? fields name with
      | none =>
        rw [hf] at hget
        exact hget
      | some field =>
        obtain ⟨p, s⟩ := field
        rw [hf] at hget
        have hself := field?_eq_self_iff.1 hget
        cases hv : Table.get? out name with
        | none =>
          rw [hv] at hself
          exact hself
        | some v =>
          rw [hv] at hself
          exact ⟨⟨hself.1, Json.ordered_of_get? hordered hv⟩, hself.2⟩
    | _ => cases hfixed
  · rintro ⟨fs, rfl, hfs, hnormal⟩
    have hself : ∀ name p s, Table.get? fields name = some (p, s) →
        field? p s (Table.get? fs name) = some (Table.get? fs name) := by
      intro name p s hf
      have hname := hnormal name
      rw [hf] at hname
      rw [field?_eq_self_iff]
      cases hv : Table.get? fs name with
      | none =>
        rw [hv] at hname
        exact hname
      | some v =>
        rw [hv] at hname
        exact ⟨hname.1.fixed, hname.2⟩
    obtain ⟨out, hout⟩ : ∃ out, normalizeFields? fields fs = some out :=
      normalizeFields?_of_fields fun row hrow =>
        ⟨_, hself row.1 row.2.1 row.2.2 (hfields.get?_of_mem hrow)⟩
    -- What the record makes of the document has under every name what the document has.
    have hsame : out = fs := by
      refine (normalizeFields?_sorted hfields hout).ext hfs fun name => ?_
      have hget := get?_of_normalizeFields? hfields hout name
      cases hf : Table.get? fields name with
      | none =>
        have hname := hnormal name
        rw [hf] at hget hname
        exact hget.trans hname.symm
      | some field =>
        rw [hf] at hget
        exact Option.some.inj (hget.symm.trans (hself name field.1 field.2 hf))
    refine ⟨by rw [normalize?, hout, hsame]; rfl, Json.ordered_obj_of_get? hfs fun name v hv => ?_⟩
    have hname := hnormal name
    cases hf : Table.get? fields name with
    | none =>
      rw [hf, hv] at hname
      cases hname
    | some field =>
      rw [hf, hv] at hname
      exact hname.1.ordered

theorem normal_list : (list s).Normal j ↔ ∃ xs, j = .arr xs ∧ ∀ x ∈ xs, s.Normal x := by
  have hitems (xs : List Json) :
      (xs.mapM fun x => normalize? s x) = some xs ↔ ∀ x ∈ xs, normalize? s x = some x := by
    induction xs with
    | nil => simp
    | cons x xs ih =>
      rw [List.mapM_cons, List.forall_mem_cons, ← ih]
      constructor
      · intro h
        obtain ⟨y, hy, h⟩ := Option.bind_eq_some_iff.1 h
        obtain ⟨ys, hys, h⟩ := Option.bind_eq_some_iff.1 h
        obtain ⟨rfl, rfl⟩ := List.cons.inj (Option.some.inj h)
        exact ⟨hy, hys⟩
      · rintro ⟨hx, hxs⟩
        rw [hx, hxs]
        rfl
  constructor
  · rintro ⟨hfixed, hordered⟩
    cases j with
    | arr xs =>
      rw [normalize?] at hfixed
      obtain ⟨ys, hys, heq⟩ := Option.map_eq_some_iff.1 hfixed
      obtain rfl := Json.arr.inj heq
      exact ⟨ys, rfl, fun x hx => ⟨(hitems ys).1 hys x hx, Json.ordered_arr.1 hordered x hx⟩⟩
    | _ => cases hfixed
  · rintro ⟨xs, rfl, hxs⟩
    refine ⟨?_, Json.ordered_arr.2 fun x hx => (hxs x hx).ordered⟩
    rw [normalize?, (hitems xs).2 fun x hx => (hxs x hx).fixed]
    rfl

theorem normal_table : (table s).Normal j ↔
    ∃ fs, j = .obj fs ∧ Table.Sorted fs ∧ ∀ name v, Table.get? fs name = some v → s.Normal v := by
  have hrows (fs : Json.Fields) :
      (fs.mapM fun row => (normalize? s row.2).map fun v => (row.1, v)) = some fs ↔
        ∀ row ∈ fs, normalize? s row.2 = some row.2 := by
    induction fs with
    | nil => simp
    | cons row fs ih =>
      rw [List.mapM_cons, List.forall_mem_cons, ← ih]
      constructor
      · intro h
        obtain ⟨row', hrow, h⟩ := Option.bind_eq_some_iff.1 h
        obtain ⟨fs', hfs, h⟩ := Option.bind_eq_some_iff.1 h
        obtain ⟨rfl, rfl⟩ := List.cons.inj (Option.some.inj h)
        obtain ⟨v, hv, heq⟩ := Option.map_eq_some_iff.1 hrow
        exact ⟨by rw [hv, ← heq], hfs⟩
      · rintro ⟨hrow, hfs⟩
        rw [hrow, hfs]
        rfl
  constructor
  · rintro ⟨hfixed, hordered⟩
    cases j with
    | obj fs =>
      rw [normalize?] at hfixed
      obtain ⟨fs', hfs, heq⟩ := Option.map_eq_some_iff.1 hfixed
      obtain rfl := Json.obj.inj heq
      refine ⟨fs', rfl, (Json.ordered_obj.1 hordered).1, fun name v hv => ?_⟩
      exact ⟨(hrows fs').1 hfs _ (Table.mem_of_get? hv), Json.ordered_of_get? hordered hv⟩
    | _ => cases hfixed
  · rintro ⟨fs, rfl, hfs, hvalues⟩
    refine ⟨?_, Json.ordered_obj_of_get? hfs fun name v hv => (hvalues name v hv).ordered⟩
    rw [normalize?, (hrows fs).2 fun row hrow =>
      (hvalues row.1 row.2 (hfs.get?_of_mem hrow)).fixed]
    rfl

/-! ## Laying over -/

/-- A schema that has no arrays and no objects takes what is laid over. -/
theorem Normal.merge_of_scalar (hd : s.Normal d) (harr : ∀ xs, ¬ s.Normal (.arr xs))
    (hobj : ∀ fs, ¬ s.Normal (.obj fs)) (l : Json) : s.Normal (Json.merge l d) := by
  rcases Json.merge_cases l d with ⟨_, ds, -, rfl, -⟩ | ⟨_, ys, -, rfl, -, -⟩ | hmerge
  · exact absurd hd (hobj ds)
  · exact absurd hd (harr ys)
  · rwa [hmerge]

/-- A normal document with a normal one laid over it is normal. -/
theorem Normal.merge (hs : s.ordered = true) (hl : s.Normal l) (hd : s.Normal d) :
    s.Normal (Json.merge l d) := by
  induction s using induct generalizing l d with
  | text | boolean | int32 | int64 | intOrText | base64 | time | microTime =>
    exact hd.merge_of_scalar (fun _ h => nomatch h.fixed) (fun _ h => nomatch h.fixed) l
  | anything => exact ⟨rfl, Json.ordered_merge hl.ordered hd.ordered⟩
  | list s ih =>
    obtain ⟨xs, rfl, hxs⟩ := normal_list.1 hl
    obtain ⟨ys, rfl, hys⟩ := normal_list.1 hd
    rw [Json.merge]
    split
    · rw [normal_list, Json.mergeItems_eq_zipWith]
      refine ⟨_, rfl, fun z hz => ?_⟩
      obtain ⟨n, hn, rfl⟩ := List.mem_iff_getElem.1 hz
      rw [List.getElem_zipWith]
      exact ih hs (hxs _ (List.getElem_mem (List.lt_length_left_of_zipWith hn)))
        (hys _ (List.getElem_mem (List.lt_length_right_of_zipWith hn)))
    · exact hd
  | table s ih =>
    obtain ⟨ls, rfl, hls, hlive⟩ := normal_table.1 hl
    obtain ⟨ds, rfl, hds, hwanted⟩ := normal_table.1 hd
    rw [Json.merge, normal_table]
    refine ⟨_, rfl, Json.mergeFields_sorted hls ds, fun name v hv => ?_⟩
    rw [Json.get?_mergeFields _ _ hds.names_nodup] at hv
    cases hd' : Table.get? ds name with
    | none =>
      rw [hd'] at hv
      exact hlive name v hv
    | some w =>
      rw [hd'] at hv
      obtain rfl := Option.some.inj hv
      cases hl' : Table.get? ls name with
      | none => exact hwanted name w hd'
      | some b => exact ih hs (hlive name b hl') (hwanted name w hd')
  | record fields ih =>
    obtain ⟨hfields, hordered⟩ := ordered_record.1 hs
    obtain ⟨ls, rfl, hls, hlive⟩ := (normal_record hfields).1 hl
    obtain ⟨ds, rfl, hds, hwanted⟩ := (normal_record hfields).1 hd
    rw [Json.merge, normal_record hfields]
    refine ⟨_, rfl, Json.mergeFields_sorted hls ds, fun name => ?_⟩
    have hlive := hlive name
    have hwanted := hwanted name
    rw [Json.get?_mergeFields _ _ hds.names_nodup]
    cases hd' : Table.get? ds name with
    | none => exact hlive
    | some w =>
      rw [hd'] at hwanted
      cases hl' : Table.get? ls name with
      | none => exact hwanted
      | some b =>
        rw [hl'] at hlive
        cases hf : Table.get? fields name with
        | none =>
          rw [hf] at hwanted
          cases hwanted
        | some field =>
          rw [hf] at hlive hwanted
          have hmem := Table.mem_of_get? hf
          refine ⟨ih _ hmem (hordered _ hmem) hlive.1 hwanted.1, fun hnull => ?_⟩
          exact hwanted.2 (Decidable.not_not.1 fun hne => Json.merge_ne_null b hne hnull)

/-! ## Changes at one place -/

/-- The function leads from normal documents to normal documents, and to null from null only. -/
structure Stable (s : Schema) (f : Json → Json) : Prop where
  normal : ∀ j, s.Normal j → s.Normal (f j)
  solid : ∀ j, f j = .null → j = .null

namespace Stable

variable {f g : Json → Json}

theorem comp (hf : s.Stable f) (hg : s.Stable g) : s.Stable fun j => f (g j) where
  normal j hj := hf.normal _ (hg.normal j hj)
  solid j hj := hg.solid j (hf.solid _ hj)

theorem modify (hs : s.ordered = true) (hname : Table.get? s.fields name = some (p, t))
    (hf : t.Stable f) : s.Stable (·.modify name f) := by
  rw [eq_record_of_get? hname] at hs ⊢
  have hfields := (ordered_record.1 hs).1
  refine ⟨fun j hj => ?_, fun j hj => ?_⟩
  · obtain ⟨fs, rfl, hfs, hnormal⟩ := (normal_record hfields).1 hj
    refine (normal_record hfields).2 ⟨_, rfl, hfs.modify name f, fun k => ?_⟩
    have hk := hnormal k
    rw [Table.get?_modify]
    split
    · next heq =>
      subst heq
      rw [hname] at hk ⊢
      cases hv : Table.get? fs name with
      | none =>
        rw [hv] at hk
        exact hk
      | some v =>
        rw [hv] at hk
        exact ⟨hf.normal v hk.1, fun hnull => hk.2 (hf.solid v hnull)⟩
    · exact hk
  · cases j with
    | obj fs => cases hj
    | _ => exact hj

theorem set (hs : s.ordered = true) (hname : Table.get? s.fields name = some (p, t))
    {v : Json → Json} (hv : ∀ j, s.Normal j → t.Normal (v j)) (hsolid : ∀ j, v j ≠ .null) :
    s.Stable fun j => j.set name (v j) := by
  rw [eq_record_of_get? hname] at hs hv ⊢
  have hfields := (ordered_record.1 hs).1
  refine ⟨fun j hj => ?_, fun j hj => ?_⟩
  · have hvalue := hv j hj
    obtain ⟨fs, rfl, hfs, hnormal⟩ := (normal_record hfields).1 hj
    refine (normal_record hfields).2 ⟨_, rfl, hfs.insert name _, fun k => ?_⟩
    rw [Table.get?_insert]
    split
    · next heq =>
      subst heq
      rw [hname]
      exact ⟨hvalue, fun hnull => absurd hnull (hsolid _)⟩
    · exact hnormal k
  · cases j with
    | obj fs => cases hj
    | _ => exact hj

/-- What is stable for the schema at a path is stable for the whole when it is done there. -/
theorem modifyAt {path : List String} (hs : s.ordered = true) (hpath : s.at? path = some t)
    (hf : t.Stable f) : s.Stable (·.modifyAt path f) := by
  induction path generalizing s with
  | nil =>
    obtain rfl := Option.some.inj hpath
    exact hf
  | cons name path ih =>
    obtain ⟨field, hname, hpath⟩ := Option.bind_eq_some_iff.1 hpath
    exact modify hs hname (ih (ordered_of_get? hs hname) hpath)

theorem mapItems (hf : s.Stable f) : (list s).Stable (·.mapItems f) where
  normal j hj := by
    obtain ⟨xs, rfl, hxs⟩ := normal_list.1 hj
    refine normal_list.2 ⟨_, rfl, fun y hy => ?_⟩
    obtain ⟨x, hx, rfl⟩ := List.mem_map.1 hy
    exact hf.normal x (hxs x hx)
  solid j hj := by
    cases j with
    | arr xs => cases hj
    | _ => exact hj

theorem modifyHead (hf : s.Stable f) : (list s).Stable (·.modifyHead f) where
  normal j hj := by
    obtain ⟨xs, rfl, hxs⟩ := normal_list.1 hj
    cases xs with
    | nil => exact hj
    | cons x xs =>
      obtain ⟨hx, hxs⟩ := List.forall_mem_cons.1 hxs
      exact normal_list.2 ⟨_, rfl, List.forall_mem_cons.2 ⟨hf.normal x hx, hxs⟩⟩
  solid j hj := by
    cases j with
    | arr xs => cases xs <;> cases hj
    | _ => exact hj

theorem modifyFirst (hf : s.Stable f) (q : Json → Bool) : (list s).Stable (·.modifyFirst q f) where
  normal j hj := by
    obtain ⟨xs, rfl, hxs⟩ := normal_list.1 hj
    refine normal_list.2 ⟨_, rfl, ?_⟩
    clear hj
    induction xs with
    | nil => exact hxs
    | cons x xs ih =>
      obtain ⟨hx, hxs⟩ := List.forall_mem_cons.1 hxs
      rw [Json.modifyFirst.go]
      split
      · exact List.forall_mem_cons.2 ⟨hf.normal x hx, hxs⟩
      · exact List.forall_mem_cons.2 ⟨hx, ih hxs⟩
  solid j hj := by
    cases j with
    | arr xs => cases hj
    | _ => exact hj

end Stable

end Schema

end NodeFeatureOperator
