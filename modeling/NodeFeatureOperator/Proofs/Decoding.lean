import NodeFeatureOperator.Proofs.Calendar
import NodeFeatureOperator.Proofs.WellFormed

/-!
# What documents give

The normal form of a document is normal, whatever the document is
(`Schema.normal_of_normalize?`). So the well-formed objects are the objects that documents give, no
more and no less (`ManagedObject.wellFormed_iff`).
-/

namespace NodeFeatureOperator

/-! ## Lists of results -/

section Results

variable {α β γ : Type} {f : α → Option β} {xs : List α} {ys : List β}

theorem mem_of_mapM (h : xs.mapM f = some ys) : ∀ y ∈ ys, ∃ x ∈ xs, f x = some y := by
  induction xs generalizing ys with
  | nil =>
    obtain rfl := Option.some.inj h
    exact fun _ hy => nomatch hy
  | cons x xs ih =>
    rw [List.mapM_cons] at h
    obtain ⟨z, hz, h⟩ := Option.bind_eq_some_iff.1 h
    obtain ⟨zs, hzs, h⟩ := Option.bind_eq_some_iff.1 h
    obtain rfl := Option.some.inj h
    refine List.forall_mem_cons.2 ⟨⟨x, List.mem_cons_self, hz⟩, fun y hy => ?_⟩
    obtain ⟨x', hx', hy⟩ := ih hzs y hy
    exact ⟨x', List.mem_cons_of_mem x hx', hy⟩

/-- What a function keeps is the same before and after, all along a list. -/
theorem map_of_mapM {g : α → γ} {g' : β → γ} (hf : ∀ x y, f x = some y → g' y = g x)
    (h : xs.mapM f = some ys) : ys.map g' = xs.map g := by
  induction xs generalizing ys with
  | nil =>
    obtain rfl := Option.some.inj h
    rfl
  | cons x xs ih =>
    rw [List.mapM_cons] at h
    obtain ⟨z, hz, h⟩ := Option.bind_eq_some_iff.1 h
    obtain ⟨zs, hzs, h⟩ := Option.bind_eq_some_iff.1 h
    obtain rfl := Option.some.inj h
    rw [List.map_cons, List.map_cons, hf x z hz, ih hzs]

end Results

/-! ## Normal forms -/

namespace Schema

variable {s : Schema} {fields : List (String × Presence × Schema)} {fs out : Json.Fields}
  {j j' : Json}

/-- Normal times to the second are those that are written for a time of the calendar. -/
theorem normal_time :
    time.Normal j ↔ ∃ t : CalendarTime, t.Valid ∧ j = .str t.wholeSeconds.toText := by
  constructor
  · intro h
    cases j with
    | str s =>
      obtain ⟨t, ht, heq⟩ := Option.map_eq_some_iff.1 h.fixed
      exact ⟨t, CalendarTime.parse?_valid ht, heq.symm⟩
    | _ => cases h.fixed
  · rintro ⟨t, ht, rfl⟩
    have hagain : t.wholeSeconds.wholeSeconds = t.wholeSeconds := by
      unfold CalendarTime.wholeSeconds
      simp only [Nat.mul_div_cancel _ (show 0 < 1000000000 by decide)]
    refine ⟨?_, rfl⟩
    rw [normalize?, CalendarTime.parse?_wholeSeconds ht, Option.map_some, hagain]

/-- Normal times to the microsecond are those that are written for a time of the calendar. -/
theorem normal_microTime :
    microTime.Normal j ↔ ∃ t : CalendarTime, t.Valid ∧ j = .str t.toMicroText := by
  constructor
  · intro h
    cases j with
    | str s =>
      obtain ⟨t, ht, heq⟩ := Option.map_eq_some_iff.1 h.fixed
      exact ⟨t, CalendarTime.parse?_valid ht, heq.symm⟩
    | _ => cases h.fixed
  · rintro ⟨t, ht, rfl⟩
    obtain ⟨t', hread, hsame⟩ := CalendarTime.parse?_toMicroText ht
    refine ⟨?_, rfl⟩
    rw [normalize?, hread, Option.map_some, hsame]

/-- The start of the calendar that stands for an absent time. -/
theorem epoch_valid : CalendarTime.Valid ⟨1970, 1, 1, 0, 0, 0, 0⟩ :=
  ⟨rfl, by decide, by decide, by decide, by decide, by decide, by decide⟩

/-- Only null has the normal form null. -/
theorem eq_null_of_normalize? (h : s.normalize? j = some .null) : j = .null := by
  cases s <;> cases j <;> simp [normalize?] at h ⊢

/-- What becomes of a field is what may stand there. -/
theorem fieldNormal_of_field? {p : Presence} {v v' : Option Json} (hdefault : s.Normal s.default)
    (hnormal : ∀ w w', v = some w → s.normalize? w = some w' → s.Normal w')
    (h : field? p s v = some v') : FieldNormal (some (p, s)) v' := by
  cases v with
  | none =>
    obtain rfl := Option.some.inj h
    split
    · next hp => exact hp
    · next hp => exact ⟨hdefault, fun _ => hp⟩
  | some w =>
    rw [field?] at h
    split at h
    · next hout =>
      obtain rfl := Option.some.inj h
      exact hout.2
    · next hkept =>
      split at h
      · next hrequired =>
        obtain rfl := Option.some.inj h
        exact ⟨hdefault, fun _ hp => hkept ⟨hrequired.1, hp⟩⟩
      · obtain ⟨w', hw', rfl⟩ := Option.map_eq_some_iff.1 h
        refine ⟨hnormal w w' rfl hw', fun hnull hp => hkept ⟨?_, hp⟩⟩
        subst hnull
        exact eq_null_of_normalize? hw'

/-- The defaults of a record are what it makes of a document without names. -/
theorem normalizeFields?_nil (fields : List (String × Presence × Schema)) :
    normalizeFields? fields [] = some (defaultFields fields) := by
  induction fields with
  | nil => rfl
  | cons row fields ih =>
    obtain ⟨name, p, s⟩ := row
    rw [normalizeFields?, ih]
    cases p <;> rfl

/-- What a record makes of a document is normal if the defaults of its fields are normal and so is
what becomes of the values that are given. -/
theorem normal_of_normalizeFields? (hfields : Table.Sorted fields)
    (hdefault : ∀ row ∈ fields, row.2.2.Normal row.2.2.default)
    (hnormal : ∀ row ∈ fields, ∀ w w', Table.get? fs row.1 = some w →
      row.2.2.normalize? w = some w' → row.2.2.Normal w')
    (hout : normalizeFields? fields fs = some out) : (record fields).Normal (.obj out) := by
  refine (normal_record hfields).2 ⟨out, rfl, normalizeFields?_sorted hfields hout, fun name => ?_⟩
  have hget := get?_of_normalizeFields? hfields hout name
  cases hf : Table.get? fields name with
  | none =>
    rw [hf] at hget
    exact hget
  | some field =>
    obtain ⟨p, s⟩ := field
    rw [hf] at hget
    have hmem := Table.mem_of_get? hf
    exact fieldNormal_of_field? (hdefault _ hmem) (hnormal _ hmem) hget

theorem normal_default (hs : s.ordered = true) : s.Normal s.default := by
  induction s using induct with
  | text | boolean | int32 | int64 | intOrText | anything => exact ⟨rfl, rfl⟩
  | base64 => exact ⟨by decide +kernel, rfl⟩
  | time => exact normal_time.2 ⟨_, epoch_valid, by decide +kernel⟩
  | microTime => exact normal_microTime.2 ⟨_, epoch_valid, by decide +kernel⟩
  | list s ih => exact normal_list.2 ⟨[], rfl, fun _ hx => nomatch hx⟩
  | table s ih => exact normal_table.2 ⟨[], rfl, List.Pairwise.nil, fun _ _ hv => nomatch hv⟩
  | record fields ih =>
    obtain ⟨hfields, hordered⟩ := ordered_record.1 hs
    have hdefault : ∀ row ∈ fields, row.2.2.Normal row.2.2.default := by
      intro row hrow
      exact ih row hrow (hordered row hrow)
    exact normal_of_normalizeFields? hfields hdefault (fun _ _ _ _ hw => by cases hw)
      (normalizeFields?_nil fields)

/-! ## Normal forms are normal -/

/-- What a schema makes of documents whose names stand in order is normal. -/
def Normalizes (s : Schema) : Prop :=
  ∀ ⦃j j'⦄, j.ordered = true → s.normalize? j = some j' → s.Normal j'

theorem Normalizes.list (h : s.Normalizes) : (list s).Normalizes := by
  intro j j' hj hgiven
  cases j with
  | arr xs =>
    obtain ⟨ys, hys, rfl⟩ := Option.map_eq_some_iff.1 hgiven
    refine normal_list.2 ⟨ys, rfl, fun y hy => ?_⟩
    obtain ⟨x, hx, hy⟩ := mem_of_mapM hys y hy
    exact h (Json.ordered_arr.1 hj x hx) hy
  | _ => cases hgiven

/-- A table keeps the names of a document and makes the values normal. -/
theorem Normalizes.table (h : s.Normalizes) : (table s).Normalizes := by
  intro j j' hj hgiven
  cases j with
  | obj fs =>
    obtain ⟨out, hout, rfl⟩ := Option.map_eq_some_iff.1 hgiven
    obtain ⟨hfs, hvalues⟩ := Json.ordered_obj.1 hj
    have hnames : out.map (·.1) = fs.map (·.1) := by
      refine map_of_mapM (fun row row' hrow => ?_) hout
      obtain ⟨v, -, rfl⟩ := Option.map_eq_some_iff.1 hrow
      rfl
    refine normal_table.2 ⟨out, rfl, .of_sublist (List.pairwise_map.2 hfs)
      (hnames ▸ List.Sublist.refl _), fun name v hv => ?_⟩
    obtain ⟨row, hrow, hv⟩ := mem_of_mapM hout _ (Table.mem_of_get? hv)
    obtain ⟨w, hw, heq⟩ := Option.map_eq_some_iff.1 hv
    obtain ⟨-, rfl⟩ := Prod.mk.inj heq
    exact h (hvalues row hrow) hw
  | _ => cases hgiven

/-- A record fills in defaults, which are normal, and makes the values that are given normal. -/
theorem normalizes_record (hs : (record fields).ordered = true)
    (h : ∀ row ∈ fields, row.2.2.Normalizes) : (record fields).Normalizes := by
  intro j j' hj hgiven
  obtain ⟨hfields, hordered⟩ := ordered_record.1 hs
  cases j with
  | obj fs =>
    obtain ⟨out, hout, rfl⟩ := Option.map_eq_some_iff.1 hgiven
    refine normal_of_normalizeFields? hfields (fun row hrow => normal_default (hordered row hrow))
      (fun row hrow w w' hw hw' => ?_) hout
    exact h row hrow (Json.ordered_of_get? hj hw) hw'
  | _ => cases hgiven

/-- The normal form of a document whose names stand in order is normal. -/
theorem normal_of_normalize? (hs : s.ordered = true) (hj : j.ordered = true)
    (h : s.normalize? j = some j') : s.Normal j' := by
  induction s using induct generalizing j j' with
  | text | boolean =>
    cases j <;> cases h
    exact ⟨rfl, rfl⟩
  | int32 | int64 =>
    cases j with
    | int i =>
      obtain ⟨hfits, rfl⟩ := Option.ite_some_none_eq_some.1 h
      exact ⟨h, rfl⟩
    | _ => cases h
  | intOrText =>
    cases j with
    | int i =>
      obtain ⟨hfits, rfl⟩ := Option.ite_some_none_eq_some.1 h
      exact ⟨h, rfl⟩
    | str s =>
      obtain rfl := Option.some.inj h
      exact ⟨rfl, rfl⟩
    | _ => cases h
  | base64 =>
    cases j with
    | str s =>
      obtain ⟨-, rfl⟩ := Option.ite_some_none_eq_some.1 h
      exact ⟨h, rfl⟩
    | _ => cases h
  | time =>
    cases j with
    | str s =>
      obtain ⟨t, ht, rfl⟩ := Option.map_eq_some_iff.1 h
      exact normal_time.2 ⟨t, CalendarTime.parse?_valid ht, rfl⟩
    | _ => cases h
  | microTime =>
    cases j with
    | str s =>
      obtain ⟨t, ht, rfl⟩ := Option.map_eq_some_iff.1 h
      exact normal_microTime.2 ⟨t, CalendarTime.parse?_valid ht, rfl⟩
    | _ => cases h
  | anything =>
    obtain rfl := Option.some.inj h
    exact ⟨rfl, hj⟩
  | list s ih =>
    have hitem : s.Normalizes := fun _ _ => ih hs
    exact hitem.list hj h
  | table s ih =>
    have hvalue : s.Normalizes := fun _ _ => ih hs
    exact hvalue.table hj h
  | record fields ih =>
    have hfield : ∀ row ∈ fields, row.2.2.Normalizes := by
      intro row hrow _ _
      exact ih row hrow ((ordered_record.1 hs).2 row hrow)
    exact normalizes_record hs hfield hj h

end Schema

/-! ## Fields -/

namespace Schema

/-- A normal record is what it has under the names of its schema, one after the other. -/
theorem flatMap_field {fields : List (String × Presence × Schema)} {fs : Json.Fields}
    (hfields : Table.Sorted fields) (hfs : Table.Sorted fs)
    (h : ∀ name, FieldNormal (Table.get? fields name) (Table.get? fs name)) :
    (fields.flatMap fun row => Json.field row.1 (Table.get? fs row.1)) = fs := by
  have hget (rows : List (String × Presence × Schema)) (k : String) :
      Table.get? (rows.flatMap fun row => Json.field row.1 (Table.get? fs row.1)) k
        = if k ∈ rows.map (·.1) then Table.get? fs k else none := by
    induction rows with
    | nil => rfl
    | cons row rows ih =>
      rw [List.flatMap_cons, Table.get?_append, Json.get?_field, ih]
      by_cases heq : row.1 = k
      · subst heq
        by_cases hk : row.1 ∈ rows.map (·.1) <;> simp [hk]
      · have hlater : k ∈ (row :: rows).map (·.1) ↔ k ∈ rows.map (·.1) := by
          rw [List.map_cons, List.mem_cons]
          exact or_iff_right (Ne.symm heq)
        simp only [heq, if_false, Option.none_or, hlater]
  have hsublist (rows : List (String × Presence × Schema)) :
      ((rows.flatMap fun row => Json.field row.1 (Table.get? fs row.1)).map (·.1)).Sublist
        (rows.map (·.1)) := by
    induction rows with
    | nil => exact List.Sublist.refl _
    | cons row rows ih =>
      rw [List.flatMap_cons, List.map_append]
      exact (Json.names_field_sublist row.1 _).append ih
  refine (Table.Sorted.of_sublist (List.pairwise_map.2 hfields) (hsublist fields)).ext hfs
    fun k => ?_
  rw [hget]
  split
  · rfl
  · next hk =>
    have habsent : Table.get? fields k = none :=
      Table.get?_eq_none_iff.2 fun row hrow heq => hk (List.mem_map.2 ⟨row, hrow, heq⟩)
    have hnothing := h k
    rw [habsent] at hnothing
    exact hnothing.symm

/-- What may stand under an optional name is read and written as it is, if what is normal for the
name is. -/
theorem map_bind_of_fieldNormal {α : Type} {s : Schema} {f : α → Json}
    {g : Json → Option α} {v : Option Json} (h : ∀ j, s.Normal j → (g j).map f = some j)
    (hv : FieldNormal (some (.optional, s)) v) : (v.bind g).map f = v := by
  cases v with
  | none => rfl
  | some j => exact h j hv.1

variable {s : Schema} {j : Json}

theorem map_asString? (h : text.Normal j) : j.asString?.map .str = some j := by
  obtain ⟨s, rfl⟩ := normal_text.1 h
  rfl

theorem map_asBool? (h : boolean.Normal j) : j.asBool?.map .bool = some j := by
  cases j with
  | bool b => rfl
  | _ => cases h.fixed

theorem map_asInt? (h : int64.Normal j) : j.asInt?.map .int = some j := by
  cases j with
  | int i => rfl
  | _ => cases h.fixed

theorem map_asMoment? (h : time.Normal j) :
    j.asMoment?.map (fun t => .str t.toText) = some j := by
  obtain ⟨t, ht, rfl⟩ := normal_time.1 h
  unfold Json.asMoment?
  rw [Json.asString?, Option.bind_some, CalendarTime.parse?_wholeSeconds ht]
  rfl

theorem map_asStringTable? (h : textTable.Normal j) :
    j.asStringTable?.map .ofStringTable = some j := by
  obtain ⟨t, rfl, -⟩ := normal_textTable.1 h
  rw [Json.asStringTable?_ofStringTable]
  rfl

theorem map_asArray? (h : (list s).Normal j) : j.asArray?.map .arr = some j := by
  obtain ⟨xs, rfl, -⟩ := normal_list.1 h
  rfl

/-- A list is written as it was read if its items are. -/
theorem map_mapM {α : Type} {f : α → Json} {g : Json → Option α}
    (hitem : ∀ j, s.Normal j → (g j).map f = some j) (h : (list s).Normal j) :
    (j.asArray?.bind (·.mapM g)).map (fun as => .arr (as.map f)) = some j := by
  obtain ⟨xs, rfl, hxs⟩ := normal_list.1 h
  have hitems : (xs.mapM g).map (·.map f) = some xs := by
    clear h
    induction xs with
    | nil => rfl
    | cons x xs ih =>
      obtain ⟨hx, hxs⟩ := List.forall_mem_cons.1 hxs
      obtain ⟨a, ha, heq⟩ := Option.map_eq_some_iff.1 (hitem x hx)
      obtain ⟨as, has, heqs⟩ := Option.map_eq_some_iff.1 (ih hxs)
      rw [List.mapM_cons, ha, has]
      exact congrArg some (List.cons_eq_cons.2 ⟨heq, heqs⟩)
  obtain ⟨as, has, heq⟩ := Option.map_eq_some_iff.1 hitems
  rw [Json.asArray?, Option.bind_some, has, Option.map_some, heq]

theorem map_asStrings? (h : texts.Normal j) : j.asStrings?.map .ofStrings = some j :=
  map_mapM (fun _ => map_asString?) h

end Schema

namespace OwnerReference

/-- What is read off a normal reference is written as it was. -/
theorem map_read? {j : Json} (h : Schema.ownerReference.Normal j) :
    (read? j).map (·.toJson) = some j := by
  have hsorted : Table.Sorted Schema.ownerReference.fields :=
    Table.sorted_iff_ascending.2 (by decide)
  obtain ⟨fs, rfl, hfs, hfields⟩ := (Schema.normal_record hsorted).1 h
  have htext (name : String)
      (hname : Table.get? Schema.ownerReference.fields name = some (.required, .text)) :
      ∃ s, Table.get? fs name = some (.str s) := by
    have hfield := hfields name
    rw [hname] at hfield
    cases hv : Table.get? fs name with
    | none =>
      rw [hv] at hfield
      cases hfield
    | some v =>
      rw [hv] at hfield
      obtain ⟨s, rfl⟩ := Schema.normal_text.1 hfield.1
      exact ⟨s, rfl⟩
  have hflag (name : String)
      (hname : Table.get? Schema.ownerReference.fields name = some (.optional, .boolean)) :
      (Json.read? fs name Json.asBool?).map .bool = Table.get? fs name :=
    Schema.map_bind_of_fieldNormal (fun _ => Schema.map_asBool?) (hname ▸ hfields name)
  obtain ⟨apiVersion, hversion⟩ := htext "apiVersion" rfl
  obtain ⟨kind, hkind⟩ := htext "kind" rfl
  obtain ⟨owner, howner⟩ := htext "name" rfl
  obtain ⟨uid, huid⟩ := htext "uid" rfl
  have hread : read? (.obj fs) = some ⟨apiVersion,
      Json.read? fs "blockOwnerDeletion" Json.asBool?, Json.read? fs "controller" Json.asBool?,
      kind, owner, uid⟩ := by
    unfold read? Json.read?
    simp only [Json.asObject?, Option.bind_eq_bind, Option.bind_some, hversion, hkind, howner, huid,
      Json.asString?, Option.pure_def]
  rw [hread, Option.map_some]
  refine congrArg some (congrArg Json.obj (Eq.trans ?_
    (Schema.flatMap_field hsorted hfs hfields)))
  simp only [Schema.ownerReference, Schema.fields, Schema.req, Schema.opt, List.flatMap_cons,
    List.flatMap_nil, hversion, hkind, howner, huid, hflag "blockOwnerDeletion" rfl,
    hflag "controller" rfl, Json.field, List.append_assoc, List.cons_append, List.nil_append,
    List.append_nil]

end OwnerReference

/-! ## Metadata -/

namespace Metadata

variable {fs : Json.Fields} {j : Json} {m : Metadata}

/-- What is read off metadata in normal form is written as it was. -/
theorem toFields_ofFields (h : Schema.objectMeta.Normal (.obj fs)) :
    (ofFields fs).toFields = fs := by
  have hsorted : Table.Sorted Schema.objectMeta.fields :=
    Table.sorted_iff_ascending.2 (by decide +kernel)
  obtain ⟨fs', heq, hfs, hfields⟩ := (Schema.normal_record hsorted).1 h
  obtain rfl := Json.obj.inj heq
  have hread {α : Type} (name : String) {s : Schema} {f : α → Json} {g : Json → Option α}
      (hname : Table.get? Schema.objectMeta.fields name = some (.optional, s))
      (hf : ∀ j, s.Normal j → (g j).map f = some j) :
      (Json.read? fs name g).map f = Table.get? fs name :=
    Schema.map_bind_of_fieldNormal hf (hname ▸ hfields name)
  have htext (name : String)
      (hname : Table.get? Schema.objectMeta.fields name = some (.optional, .text)) :=
    hread name hname fun _ => Schema.map_asString?
  have hnumber (name : String)
      (hname : Table.get? Schema.objectMeta.fields name = some (.optional, .int64)) :=
    hread name hname fun _ => Schema.map_asInt?
  have htime (name : String)
      (hname : Table.get? Schema.objectMeta.fields name = some (.optional, .time)) :=
    hread name hname fun _ => Schema.map_asMoment?
  have htable (name : String)
      (hname : Table.get? Schema.objectMeta.fields name = some (.optional, Schema.textTable)) :=
    hread name hname fun _ => Schema.map_asStringTable?
  have hfinalizers := hread "finalizers" rfl fun _ => Schema.map_asStrings?
  have hentries := hread "managedFields" rfl fun _ => Schema.map_asArray?
  have howners := hread "ownerReferences" rfl fun _ => Schema.map_mapM fun _ =>
    OwnerReference.map_read?
  refine Eq.trans ?_ (Schema.flatMap_field hsorted hfs hfields)
  unfold toFields ofFields
  dsimp only
  rw [htable "annotations" rfl, htime "creationTimestamp" rfl,
    hnumber "deletionGracePeriodSeconds" rfl, htime "deletionTimestamp" rfl, hfinalizers,
    htext "generateName" rfl, hnumber "generation" rfl, htable "labels" rfl, hentries,
    htext "name" rfl, htext "namespace" rfl, howners, htext "resourceVersion" rfl,
    htext "selfLink" rfl, htext "uid" rfl]
  simp only [Schema.objectMeta, Schema.fields, Schema.opt, List.flatMap_cons, List.flatMap_nil,
    List.append_nil, List.append_assoc]

/-- Metadata that a document gives are well-formed. -/
theorem decode?_wellFormed (hj : j.ordered = true) (h : decode? j = some m) : m.WellFormed := by
  have hordered : Schema.objectMeta.ordered = true := by decide +kernel
  obtain ⟨normal, hnormal, h⟩ := Option.bind_eq_some_iff.1 h
  obtain ⟨fs, hfs, h⟩ := Option.bind_eq_some_iff.1 h
  obtain rfl := Option.some.inj h
  cases normal with
  | obj fields =>
    obtain rfl := Option.some.inj hfs
    have hfields := Schema.normal_of_normalize? hordered hj hnormal
    have hsame := toFields_ofFields hfields
    exact ⟨by rwa [toJson, hsame], by rw [hsame]⟩
  | _ => cases hfs

theorem empty_wellFormed : ({} : Metadata).WellFormed := by decide +kernel

end Metadata

/-! ## Objects -/

namespace ManagedObject

variable {kind : Kind} {fs : Json.Fields} {j : Json} {o : ManagedObject}

theorem decodeNames?_names {names : TypeNames} (h : decodeNames? kind fs = some names) :
    kind.namesFreely = true ∨ names = kind.names := by
  unfold decodeNames? at h
  obtain ⟨apiVersion, -, h⟩ := Option.bind_eq_some_iff.1 h
  obtain ⟨kindText, -, h⟩ := Option.bind_eq_some_iff.1 h
  obtain ⟨hnames, rfl⟩ := Option.ite_some_none_eq_some.1 h
  exact hnames

theorem decodeMetadata?_wellFormed {m : Metadata} (hfs : (Json.obj fs).ordered = true)
    (h : decodeMetadata? kind fs = some m) : m.WellFormed := by
  unfold decodeMetadata? at h
  split at h
  · obtain rfl := Option.some.inj h
    exact Metadata.empty_wellFormed
  · split at h
    · cases h
    · obtain rfl := Option.some.inj h
      exact Metadata.empty_wellFormed
  · next hmetadata => exact Metadata.decode?_wellFormed (Json.ordered_of_get? hfs hmetadata) h

/-- An object that a document gives is well-formed. -/
theorem decode?_wellFormed (hj : j.ordered = true) (h : decode? kind j = some o) :
    o.WellFormed := by
  obtain ⟨fs, hfs, h⟩ := Option.bind_eq_some_iff.1 h
  obtain ⟨names, hnames, h⟩ := Option.bind_eq_some_iff.1 h
  obtain ⟨m, hm, h⟩ := Option.bind_eq_some_iff.1 h
  obtain ⟨body, hbody, h⟩ := Option.bind_eq_some_iff.1 h
  obtain rfl := Option.some.inj h
  cases j with
  | obj fields =>
    obtain rfl := Option.some.inj hfs
    obtain ⟨normal, hnormal, hobject⟩ := Option.bind_eq_some_iff.1 hbody
    cases normal with
    | obj fields =>
      obtain rfl := Option.some.inj hobject
      exact ⟨decodeNames?_names hnames, decodeMetadata?_wellFormed hj hm,
        Schema.normal_of_normalize? kind.body_ordered hj hnormal⟩
    | _ => cases hobject
  | _ => cases hfs

/-- The well-formed objects of a kind are those that documents give. -/
theorem wellFormed_iff :
    o.WellFormed ↔ ∃ j : Json, j.ordered = true ∧ decode? o.kind j = some o :=
  ⟨fun h => ⟨o.toJson, h.toJson_ordered, h.decode?_toJson⟩,
    fun ⟨_, hj, h⟩ => decode?_wellFormed hj h⟩

end ManagedObject

end NodeFeatureOperator
