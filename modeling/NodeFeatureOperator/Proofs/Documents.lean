import NodeFeatureOperator.Json.Merge
import NodeFeatureOperator.Metadata
import NodeFeatureOperator.Proofs.Table

/-!
# Look-ups in documents

What is found under a name after documents are laid over one another (`Json.get?_mergeFields`),
after a record is brought to its normal form (`Schema.get?_normalizeFields?`), and in the document
of metadata. Together they say which parts of the metadata a document keeps when another one is laid
over it: the name and the namespace that the other one has (`Metadata.decode?_mergeFields`).
-/

namespace NodeFeatureOperator

namespace Table

variable {κ α : Type} [DecidableEq κ]

theorem get?_append (s t : Table κ α) (k : κ) : get? (s ++ t) k = (get? s k).or (get? t k) := by
  induction s with
  | nil => rfl
  | cons row s ih =>
    obtain ⟨k', v⟩ := row
    rw [List.cons_append, get?_cons, get?_cons, ih]
    split <;> rfl

end Table

namespace Json

/-! ## Merging -/

/-- Every field that is laid over others is merged with the one of its name. -/
theorem get?_mergeFields (ls ds : Fields) (hds : (ds.map (·.1)).Nodup) (name : String) :
    Table.get? (mergeFields ls ds) name =
      match Table.get? ds name with
      | none => Table.get? ls name
      | some d => some ((Table.get? ls name).elim d (merge · d)) := by
  induction ds generalizing ls with
  | nil => rfl
  | cons row ds ih =>
    obtain ⟨k, d⟩ := row
    obtain ⟨hk, hds⟩ := List.nodup_cons.1 hds
    have hstep : mergeFields ls ((k, d) :: ds)
        = mergeFields (Table.insert ls k ((Table.get? ls k).elim d (merge · d))) ds := by
      rw [mergeFields]
      cases Table.get? ls k <;> rfl
    rw [hstep, ih _ hds, Table.get?_cons]
    by_cases hname : k = name
    · subst hname
      have hrest : Table.get? ds k = none := by
        rw [Table.get?_eq_none_iff]
        intro row hrow heq
        exact hk (List.mem_map.2 ⟨row, hrow, heq⟩)
      rw [hrest, if_pos rfl]
      exact Table.get?_insert_self ..
    · rw [if_neg hname, Table.get?_insert, if_neg hname]

/-- A field of both documents is merged. -/
theorem get?_mergeFields_of_both {ls ds : Fields} {name : String} {l d : Json}
    (hds : (ds.map (·.1)).Nodup) (hl : Table.get? ls name = some l)
    (hd : Table.get? ds name = some d) :
    Table.get? (mergeFields ls ds) name = some (merge l d) := by
  rw [get?_mergeFields ls ds hds, hd, hl]
  rfl

theorem get?_field (name : String) (value : Option Json) (k : String) :
    Table.get? (field name value) k = if name = k then value else none := by
  cases value with
  | none =>
    change none = _
    rw [ite_self]
  | some v => rfl

theorem names_field_sublist (name : String) (value : Option Json) :
    ((field name value).map (·.1)).Sublist [name] := by
  cases value with
  | none => exact List.nil_sublist _
  | some v => exact List.Sublist.refl _

end Json

/-! ## Normal forms -/

namespace Schema

variable {fields : List (String × Presence × Schema)} {fs out : Json.Fields} {name : String}
  {p : Presence} {s : Schema}

/-- A record puts at most its first name in front of the normal form of the others. -/
theorem normalizeFields?_cons (h : normalizeFields? ((name, p, s) :: fields) fs = some out) :
    ∃ tail, normalizeFields? fields fs = some tail ∧
      (out = tail ∨ ∃ w, out = (name, w) :: tail) := by
  rw [normalizeFields?] at h
  obtain ⟨tail, htail, h⟩ := Option.bind_eq_some_iff.1 h
  refine ⟨tail, htail, ?_⟩
  split at h
  · exact Or.inl (Option.some.inj h).symm
  · exact Or.inr ⟨_, (Option.some.inj h).symm⟩
  · exact Or.inl (Option.some.inj h).symm
  · exact Or.inr ⟨_, (Option.some.inj h).symm⟩
  · obtain ⟨w, -, rfl⟩ := Option.map_eq_some_iff.1 h
    exact Or.inr ⟨w, rfl⟩

/-- A record keeps what a document has under one of its names, in normal form. -/
theorem get?_normalizeFields? {v : Json} (hout : normalizeFields? fields fs = some out)
    (hnames : (fields.map (·.1)).Nodup) (hfield : (name, p, s) ∈ fields)
    (hv : Table.get? fs name = some v) (hnull : v ≠ .null) :
    Table.get? out name = normalize? s v := by
  induction fields generalizing out with
  | nil => cases hfield
  | cons field fields ih =>
    obtain ⟨name', p', s'⟩ := field
    obtain ⟨hname', hnames⟩ := List.nodup_cons.1 hnames
    rcases List.mem_cons.1 hfield with heq | hfield
    · cases heq
      rw [normalizeFields?] at hout
      obtain ⟨tail, -, hout⟩ := Option.bind_eq_some_iff.1 hout
      have hhead : (normalize? s v).map (fun w => (name, w) :: tail) = some out := by
        rw [hv] at hout
        cases v with
        | null => exact absurd rfl hnull
        | _ => exact hout
      obtain ⟨w, hw, rfl⟩ := Option.map_eq_some_iff.1 hhead
      rw [hw, Table.get?_cons, if_pos rfl]
    · obtain ⟨tail, htail, htails⟩ := normalizeFields?_cons hout
      have hrest := ih htail hnames hfield
      rcases htails with rfl | ⟨w, rfl⟩
      · exact hrest
      · have hne : name' ≠ name := by
          rintro rfl
          exact hname' (List.mem_map.2 ⟨_, hfield, rfl⟩)
        rw [Table.get?_cons, if_neg hne, hrest]

end Schema

/-! ## Metadata -/

namespace Metadata

theorem get?_toFields_name (m : Metadata) : Table.get? m.toFields "name" = m.name.map .str := by
  unfold toFields
  simp [Table.get?_append, Json.get?_field]

theorem get?_toFields_namespace (m : Metadata) :
    Table.get? m.toFields "namespace" = m.ns.map .str := by
  unfold toFields
  simp [Table.get?_append, Json.get?_field]

/-- The names of metadata, in order. -/
def fieldNames : List String :=
  ["annotations", "creationTimestamp", "deletionGracePeriodSeconds", "deletionTimestamp",
    "finalizers", "generateName", "generation", "labels", "managedFields", "name", "namespace",
    "ownerReferences", "resourceVersion", "selfLink", "uid"]

theorem toFields_names (m : Metadata) : (m.toFields.map (·.1)).Sublist fieldNames := by
  have hnames : fieldNames = ["annotations"] ++ ["creationTimestamp"]
      ++ ["deletionGracePeriodSeconds"] ++ ["deletionTimestamp"] ++ ["finalizers"]
      ++ ["generateName"] ++ ["generation"] ++ ["labels"] ++ ["managedFields"] ++ ["name"]
      ++ ["namespace"] ++ ["ownerReferences"] ++ ["resourceVersion"] ++ ["selfLink"] ++ ["uid"] :=
    rfl
  rw [hnames]
  unfold toFields
  simp only [List.map_append]
  repeat' apply List.Sublist.append
  all_goals exact Json.names_field_sublist ..

theorem toFields_names_nodup (m : Metadata) : (m.toFields.map (·.1)).Nodup :=
  (by decide : fieldNames.Nodup).sublist (toFields_names m)

theorem decode?_eq (j : Json) :
    decode? j =
      (Schema.objectMeta.normalize? j).bind fun normal => normal.asObject?.map ofFields := by
  unfold decode?
  cases Schema.objectMeta.normalize? j with
  | none => rfl
  | some normal => cases normal <;> rfl

variable {live wanted m : Metadata}

/-- Metadata that were laid over others are read with the name and the namespace that they have. -/
theorem decode?_mergeFields
    (hm : decode? (.obj (Json.mergeFields live.toFields wanted.toFields)) = some m) :
    (∀ name, wanted.name = some name → m.name = some name) ∧
      ∀ ns, wanted.ns = some ns → m.ns = some ns := by
  rw [decode?_eq] at hm
  obtain ⟨normal, hnormal, hm⟩ := Option.bind_eq_some_iff.1 hm
  rw [Schema.objectMeta, Schema.normalize?] at hnormal
  obtain ⟨out, hout, rfl⟩ := Option.map_eq_some_iff.1 hnormal
  obtain ⟨_, hfields, rfl⟩ := Option.map_eq_some_iff.1 hm
  obtain rfl := Option.some.inj hfields
  -- A text of the wanted metadata takes the place of whatever was there and is its own normal form.
  have hkept : ∀ field text, field = "name" ∨ field = "namespace" →
      Table.get? wanted.toFields field = some (.str text) →
      Json.read? out field Json.asString? = some text := by
    intro field text hfield hwanted
    have hmerged : Table.get? (Json.mergeFields live.toFields wanted.toFields) field
        = some (.str text) := by
      rw [Json.get?_mergeFields _ _ (toFields_names_nodup wanted), hwanted]
      cases Table.get? live.toFields field with
      | none => rfl
      | some l => simp [Json.merge]
    have hread := Schema.get?_normalizeFields? (p := .optional) (s := .text) hout (by decide)
      (by rcases hfield with rfl | rfl <;> simp [Schema.opt]) hmerged (by simp)
    rw [Json.read?, hread, Schema.normalize?]
    rfl
  refine ⟨fun name hname => hkept "name" name (Or.inl rfl) ?_,
    fun ns hns => hkept "namespace" ns (Or.inr rfl) ?_⟩
  · rw [get?_toFields_name, hname, Option.map_some]
  · rw [get?_toFields_namespace, hns, Option.map_some]

end Metadata

end NodeFeatureOperator
