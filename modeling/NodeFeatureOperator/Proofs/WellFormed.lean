import NodeFeatureOperator.Object
import NodeFeatureOperator.Proofs.NormalForm

/-!
# Well-formed objects

An object of the cluster is a value of the type of its kind. Here it is kept as the fields of its
document, so not every term of the type is such a value: it is one if its document is normal for the
schema of the kind and the object is what is read off the document (`ManagedObject.WellFormed`). A
well-formed object is read back from its own document (`ManagedObject.WellFormed.decode?_toJson`),
so two of them with one document are one object.
-/

namespace NodeFeatureOperator

/-! ## Texts -/

namespace Schema

theorem normal_text {j : Json} : text.Normal j ↔ ∃ s, j = .str s := by
  constructor
  · intro h
    cases j with
    | str s => exact ⟨s, rfl⟩
    | _ => cases h.fixed
  · rintro ⟨s, rfl⟩
    exact ⟨rfl, rfl⟩

theorem normal_texts (xs : List String) : texts.Normal (.ofStrings xs) := by
  refine normal_list.2 ⟨_, rfl, fun x hx => ?_⟩
  obtain ⟨s, -, rfl⟩ := List.mem_map.1 hx
  exact normal_text.2 ⟨s, rfl⟩

/-- A normal table of texts is the document of a table in order. -/
theorem normal_textTable {j : Json} :
    textTable.Normal j ↔ ∃ t : Table String String, j = .ofStringTable t ∧ Table.Sorted t := by
  constructor
  · intro h
    obtain ⟨fs, rfl, hfs, hvalues⟩ := normal_table.1 h
    refine ⟨fs.map fun row => (row.1, row.2.asString?.getD ""), congrArg Json.obj ?_,
      hfs.map fun _ v => v.asString?.getD ""⟩
    rw [List.map_map]
    refine ((List.map_congr_left fun row hrow => ?_).trans (List.map_id fs)).symm
    obtain ⟨s, hs⟩ := normal_text.1 (hvalues row.1 row.2 (hfs.get?_of_mem hrow))
    refine Prod.ext rfl ?_
    change Json.str (row.2.asString?.getD "") = row.2
    rw [hs]
    rfl
  · rintro ⟨t, rfl, ht⟩
    refine normal_table.2 ⟨_, rfl, ht.map fun _ s => Json.str s, fun name v hv => ?_⟩
    rw [Table.get?_map t fun _ s => Json.str s] at hv
    obtain ⟨s, -, rfl⟩ := Option.map_eq_some_iff.1 hv
    exact normal_text.2 ⟨s, rfl⟩

end Schema

theorem Json.asStringTable?_ofStringTable (t : Table String String) :
    (Json.ofStringTable t).asStringTable? = some t := by
  unfold ofStringTable asStringTable?
  change (t.map fun row => (row.1, Json.str row.2)).mapM
    (fun row => row.2.asString?.map fun s => (row.1, s)) = some t
  induction t with
  | nil => rfl
  | cons row t ih =>
    rw [List.map_cons, List.mapM_cons, ih]
    rfl

/-- What is written is read again. -/
theorem Json.bind_map_of_reads {α : Type} {f : α → Json} {g : Json → Option α}
    (h : ∀ a, g (f a) = some a) (v : Option α) : (v.map f).bind g = v := by
  cases v with
  | none => rfl
  | some a => exact h a

/-! ## Owner references -/

namespace OwnerReference

theorem read?_toJson (r : OwnerReference) : read? r.toJson = some r := by
  obtain ⟨apiVersion, block, controller, kind, name, uid⟩ := r
  cases block <;> cases controller <;> rfl

theorem toJson_ordered (r : OwnerReference) : r.toJson.ordered = true := by
  have hnames : ["apiVersion", "blockOwnerDeletion", "controller", "kind", "name", "uid"].Pairwise
      fun a b : String => compare a b = .lt := by decide
  obtain ⟨apiVersion, block, controller, kind, name, uid⟩ := r
  unfold toJson
  refine Json.ordered_obj.2 ⟨.of_sublist hnames ?_, ?_⟩
  all_goals cases block <;> cases controller <;> simp [Json.field, Json.ordered]

theorem normal_toJson (r : OwnerReference) : Schema.ownerReference.Normal r.toJson := by
  refine ⟨?_, r.toJson_ordered⟩
  obtain ⟨apiVersion, block, controller, kind, name, uid⟩ := r
  cases block <;> cases controller <;> rfl

theorem mapM_read?_toJson (refs : List OwnerReference) :
    (refs.map (·.toJson)).mapM read? = some refs := by
  induction refs with
  | nil => rfl
  | cons r refs ih =>
    rw [List.map_cons, List.mapM_cons, read?_toJson, ih]
    rfl

end OwnerReference

/-! ## Metadata -/

namespace Metadata

variable {m : Metadata}

theorem toFields_sorted (m : Metadata) : Table.Sorted m.toFields :=
  .of_sublist (by decide) (toFields_names m)

/-- The metadata are those that their own document gives. -/
structure WellFormed (m : Metadata) : Prop where
  normal : Schema.objectMeta.Normal m.toJson
  reads : ofFields m.toFields = m

instance (m : Metadata) : Decidable m.WellFormed :=
  decidable_of_iff (Schema.objectMeta.Normal m.toJson ∧ ofFields m.toFields = m)
    ⟨fun h => ⟨h.1, h.2⟩, fun h => ⟨h.1, h.2⟩⟩

theorem WellFormed.decode? (h : m.WellFormed) : decode? m.toJson = some m := by
  rw [decode?_eq, h.normal.fixed, Option.bind_some]
  exact congrArg some h.reads

/-- What stands under the names of a revision. -/
theorem get?_toFields_revised (m : Metadata) :
    Table.get? m.toFields "labels" = m.labels.map .ofStringTable ∧
    Table.get? m.toFields "name" = m.name.map .str ∧
    Table.get? m.toFields "namespace" = m.ns.map .str ∧
    Table.get? m.toFields "ownerReferences"
      = m.ownerReferences.map (fun rs => .arr (rs.map (·.toJson))) ∧
    Table.get? m.toFields "resourceVersion" = m.resourceVersion.map .str ∧
    Table.get? m.toFields "uid" = m.uid.map .str := by
  unfold toFields
  simp [Table.get?_append, Json.get?_field]

theorem normal_toJson_iff : Schema.objectMeta.Normal m.toJson ↔
    ∀ k, Schema.FieldNormal (Table.get? Schema.objectMeta.fields k) (Table.get? m.toFields k) := by
  have hsorted : Table.Sorted Schema.objectMeta.fields :=
    Table.sorted_iff_ascending.2 (by decide +kernel)
  refine (Schema.normal_record hsorted).trans ⟨?_, fun h => ⟨_, rfl, m.toFields_sorted, h⟩⟩
  rintro ⟨fs, hfs, -, h⟩
  rwa [Json.obj.inj hfs]

/-- What the schema says of the names of a revision. -/
theorem get?_schema_revised :
    Table.get? Schema.objectMeta.fields "labels" = some (.optional, Schema.textTable) ∧
    Table.get? Schema.objectMeta.fields "name" = some (.optional, .text) ∧
    Table.get? Schema.objectMeta.fields "namespace" = some (.optional, .text) ∧
    Table.get? Schema.objectMeta.fields "ownerReferences"
      = some (.optional, .list Schema.ownerReference) ∧
    Table.get? Schema.objectMeta.fields "resourceVersion" = some (.optional, .text) ∧
    Table.get? Schema.objectMeta.fields "uid" = some (.optional, .text) := by
  simp [Schema.objectMeta, Schema.fields, Schema.opt, Table.get?_cons]

/-- The labels of well-formed metadata stand in order. -/
theorem WellFormed.labels_sorted (h : m.WellFormed) (t : Table String String)
    (ht : m.labels = some t) : Table.Sorted t := by
  have hlabels := normal_toJson_iff.1 h.normal "labels"
  rw [get?_schema_revised.1, m.get?_toFields_revised.1, ht] at hlabels
  obtain ⟨t', heq, ht'⟩ := Schema.normal_textTable.1 hlabels.1
  have hsame := congrArg Json.asStringTable? heq
  rw [Json.asStringTable?_ofStringTable, Json.asStringTable?_ofStringTable] at hsame
  rwa [Option.some.inj hsame]

/-- The metadata with other labels, another name and place, other owners, and other marks of the
server. -/
def revise (m : Metadata) (labels : Option (Table String String)) (name ns : Option String)
    (ownerReferences : Option (List OwnerReference)) (resourceVersion uid : Option String) :
    Metadata :=
  { m with labels, name, ns, ownerReferences, resourceVersion, uid }

/-- The names of what a revision changes. -/
def revised : List String :=
  ["labels", "name", "namespace", "ownerReferences", "resourceVersion", "uid"]

variable {labels : Option (Table String String)} {name ns : Option String}
  {refs : Option (List OwnerReference)} {version uid : Option String}

theorem get?_revise {k : String} (hk : k ∉ revised) :
    Table.get? (m.revise labels name ns refs version uid).toFields k = Table.get? m.toFields k := by
  simp only [revised, List.mem_cons, List.not_mem_nil, or_false, not_or] at hk
  obtain ⟨h₁, h₂, h₃, h₄, h₅, h₆⟩ := hk
  unfold revise toFields
  simp only [Table.get?_append, Json.get?_field, Ne.symm h₁, Ne.symm h₂, Ne.symm h₃, Ne.symm h₄,
    Ne.symm h₅, Ne.symm h₆, if_false]

/-- A revision of labels, name and place leaves what stands under the other names. -/
theorem get?_relabel {k : String} (hk : k ∉ ["labels", "name", "namespace"]) :
    Table.get? (m.revise labels name ns m.ownerReferences m.resourceVersion m.uid).toFields k
      = Table.get? m.toFields k := by
  simp only [List.mem_cons, List.not_mem_nil, or_false, not_or] at hk
  obtain ⟨h₁, h₂, h₃⟩ := hk
  unfold revise toFields
  simp only [Table.get?_append, Json.get?_field, Ne.symm h₁, Ne.symm h₂, Ne.symm h₃, if_false]

theorem WellFormed.revise (h : m.WellFormed) (hlabels : ∀ t, labels = some t → Table.Sorted t) :
    (m.revise labels name ns refs version uid).WellFormed := by
  obtain ⟨hl, hn, hns, ho, hv, hu⟩ :=
    get?_toFields_revised (m.revise labels name ns refs version uid)
  refine ⟨?_, ?_⟩
  · refine normal_toJson_iff.2 fun k => ?_
    by_cases hk : k ∈ revised
    · obtain ⟨sl, sn, sns, so, sv, su⟩ := get?_schema_revised
      have htext (v : Option String) :
          Schema.FieldNormal (some (.optional, .text)) (v.map .str) :=
        Schema.fieldNormal_map (fun s _ => Schema.normal_text.2 ⟨s, rfl⟩)
          fun _ hnull => nomatch hnull
      simp only [revised, List.mem_cons, List.not_mem_nil, or_false] at hk
      rcases hk with rfl | rfl | rfl | rfl | rfl | rfl
      · rw [hl, sl]
        exact Schema.fieldNormal_map
          (fun t ht => Schema.normal_textTable.2 ⟨t, rfl, hlabels t ht⟩)
          fun _ hnull => nomatch hnull
      · rw [hn, sn]
        exact htext name
      · rw [hns, sns]
        exact htext ns
      · rw [ho, so]
        refine Schema.fieldNormal_map (fun rs _ => Schema.normal_list.2 ⟨_, rfl, fun j hj => ?_⟩)
          fun _ hnull => nomatch hnull
        obtain ⟨r, -, rfl⟩ := List.mem_map.1 hj
        exact r.normal_toJson
      · rw [hv, sv]
        exact htext version
      · rw [hu, su]
        exact htext uid
    · rw [get?_revise hk]
      exact normal_toJson_iff.1 h.normal k
  · have hkept {β : Type} {k : String} (f : Json → Option β) (hk : k ∉ revised) :
        Json.read? (m.revise labels name ns refs version uid).toFields k f
          = Json.read? m.toFields k f := by
      unfold Json.read?
      rw [get?_revise hk]
    have htext {k : String} (v : Option String) (hk : Table.get?
        (m.revise labels name ns refs version uid).toFields k = v.map .str) :
        Json.read? (m.revise labels name ns refs version uid).toFields k Json.asString? = v := by
      unfold Json.read?
      rw [hk]
      exact Json.bind_map_of_reads (f := Json.str) (fun _ => rfl) v
    have htable : Json.read? (m.revise labels name ns refs version uid).toFields "labels"
        Json.asStringTable? = labels := by
      unfold Json.read?
      rw [hl]
      exact Json.bind_map_of_reads Json.asStringTable?_ofStringTable labels
    have howners : Json.read? (m.revise labels name ns refs version uid).toFields "ownerReferences"
        (fun j => j.asArray?.bind (·.mapM OwnerReference.read?)) = refs := by
      unfold Json.read?
      rw [ho]
      exact Json.bind_map_of_reads OwnerReference.mapM_read?_toJson refs
    -- What is not revised is read as before, what is revised as it was written.
    calc ofFields (m.revise labels name ns refs version uid).toFields
        = (ofFields m.toFields).revise labels name ns refs version uid := by
          unfold ofFields
          simp (disch := decide) only [htable, howners, htext name hn, htext ns hns,
            htext version hv, htext uid hu, hkept]
          simp only [Metadata.revise]
      _ = m.revise labels name ns refs version uid := by rw [h.reads]

end Metadata

/-! ## Bodies -/

namespace Kind

theorem body_eq (k : Kind) : k.body = .record k.body.fields := by
  cases k <;> rfl

theorem body_ordered (k : Kind) : k.body.ordered = true := by
  have hall : ∀ k ∈ all, k.body.ordered = true := by decide +kernel
  exact hall k (by cases k <;> decide)

theorem fields_sorted (k : Kind) : Table.Sorted k.body.fields := by
  have hordered := k.body_ordered
  rw [body_eq, Schema.ordered_record] at hordered
  exact hordered.1

/-- The names of a document that are not part of the body. -/
def headNames : List String := ["apiVersion", "kind", "metadata"]

theorem not_mem_headNames {k : Kind} {row : String × Presence × Schema} (h : row ∈ k.body.fields) :
    row.1 ∉ headNames := by
  have hall : ∀ k ∈ all, ∀ row ∈ k.body.fields, row.1 ∉ headNames := by decide +kernel
  exact hall k (by cases k <;> decide) row h

variable {k : Kind} {body : Json.Fields}

theorem body_normal_iff : k.body.Normal (.obj body) ↔ Table.Sorted body ∧
    ∀ name, Schema.FieldNormal (Table.get? k.body.fields name) (Table.get? body name) := by
  have hrecord : k.body.Normal (.obj body) ↔ (Schema.record k.body.fields).Normal (.obj body) := by
    rw [← body_eq]
  refine (hrecord.trans (Schema.normal_record k.fields_sorted)).trans ⟨?_, fun h => ⟨_, rfl, h⟩⟩
  rintro ⟨fs, hfs, h⟩
  rwa [Json.obj.inj hfs]

/-- A document has a normal body as its body if it has the same under all names of a body. -/
theorem normalize?_of_body {fs : Json.Fields} (h : k.body.Normal (.obj body))
    (hfs : ∀ name, name ∉ headNames → Table.get? fs name = Table.get? body name) :
    k.body.normalize? (.obj fs) = some (.obj body) := by
  rw [← h.fixed, body_eq, Schema.normalize?, Schema.normalize?,
    Schema.normalizeFields?_congr fun row hrow => hfs row.1 (not_mem_headNames hrow)]

end Kind

/-! ## Objects -/

namespace ManagedObject

variable {o o' : ManagedObject}

/-- The object is a value of the type of its kind: it has the names of the kind, and its metadata
and its body are those that their own documents give. -/
structure WellFormed (o : ManagedObject) : Prop where
  names : o.kind.namesFreely = true ∨ o.names = o.kind.names
  metadata : o.metadata.WellFormed
  body : o.kind.body.Normal (.obj o.body)

instance (o : ManagedObject) : Decidable o.WellFormed :=
  decidable_of_iff ((o.kind.namesFreely = true ∨ o.names = o.kind.names) ∧
      o.metadata.WellFormed ∧ o.kind.body.Normal (.obj o.body))
    ⟨fun h => ⟨h.1, h.2.1, h.2.2⟩, fun h => ⟨h.1, h.2, h.3⟩⟩

/-- The fields of the document of an object. -/
def fields (o : ManagedObject) : Json.Fields :=
  Table.insert (Table.insert (Table.insert o.body "apiVersion" (.str o.names.apiVersion))
    "kind" (.str o.names.kind)) "metadata" o.metadata.toJson

theorem toJson_eq (o : ManagedObject) : o.toJson = .obj o.fields := rfl

theorem get?_fields_head (o : ManagedObject) :
    Table.get? o.fields "apiVersion" = some (.str o.names.apiVersion) ∧
    Table.get? o.fields "kind" = some (.str o.names.kind) ∧
    Table.get? o.fields "metadata" = some o.metadata.toJson := by
  unfold fields
  simp [Table.get?_insert]

theorem get?_fields {name : String} (h : name ∉ Kind.headNames) :
    Table.get? o.fields name = Table.get? o.body name := by
  simp only [Kind.headNames, List.mem_cons, List.not_mem_nil, or_false, not_or] at h
  obtain ⟨h₁, h₂, h₃⟩ := h
  unfold fields
  simp only [Table.get?_insert, Ne.symm h₁, Ne.symm h₂, Ne.symm h₃, if_false]

theorem fields_sorted (h : Table.Sorted o.body) : Table.Sorted o.fields :=
  ((h.insert ..).insert ..).insert ..

/-- What it takes for fields to be those of a well-formed object. -/
theorem decode?_of_fields {kind : Kind} {fs : Json.Fields} {names : TypeNames} {m : Metadata}
    {body : Json.Fields} (hversion : Table.get? fs "apiVersion" = some (.str names.apiVersion))
    (hkind : Table.get? fs "kind" = some (.str names.kind))
    (hmetadata : Table.get? fs "metadata" = some m.toJson)
    (hbody : ∀ name, name ∉ Kind.headNames → Table.get? fs name = Table.get? body name)
    (h : (⟨kind, names, m, body⟩ : ManagedObject).WellFormed) :
    decode? kind (.obj fs) = some ⟨kind, names, m, body⟩ := by
  have hnames : decodeNames? kind fs = some names := by
    unfold decodeNames? decodeNames?.name?
    rw [hversion, hkind]
    exact if_pos h.names
  have hmeta : decodeMetadata? kind fs = some m := by
    unfold decodeMetadata?
    rw [hmetadata]
    exact h.metadata.decode?
  unfold decode?
  simp only [Json.asObject?, hnames, hmeta, Kind.normalize?_of_body h.body hbody, Option.bind_some,
    Option.bind_eq_bind, Option.pure_def]

/-- A well-formed object is read back from its document. -/
theorem WellFormed.decode?_toJson (h : o.WellFormed) : decode? o.kind o.toJson = some o :=
  decode?_of_fields o.get?_fields_head.1 o.get?_fields_head.2.1 o.get?_fields_head.2.2
    (fun _ => get?_fields) h

theorem WellFormed.eq_of_toJson (h : o.WellFormed) (h' : o'.WellFormed) (hkind : o.kind = o'.kind)
    (hjson : o.toJson = o'.toJson) : o = o' := by
  have hread := h.decode?_toJson
  rw [hjson, hkind] at hread
  exact Option.some.inj (hread.symm.trans h'.decode?_toJson)

theorem WellFormed.sorted (h : o.WellFormed) : Table.Sorted o.body :=
  (Kind.body_normal_iff.1 h.body).1

theorem WellFormed.toJson_ordered (h : o.WellFormed) : o.toJson.ordered = true := by
  rw [toJson_eq]
  refine Json.ordered_obj_of_get? (fields_sorted h.sorted) fun name v hv => ?_
  obtain ⟨hversion, hkind, hmetadata⟩ := o.get?_fields_head
  by_cases hname : name ∈ Kind.headNames
  · simp only [Kind.headNames, List.mem_cons, List.not_mem_nil, or_false] at hname
    rcases hname with rfl | rfl | rfl
    · obtain rfl := Option.some.inj (hversion.symm.trans hv)
      rfl
    · obtain rfl := Option.some.inj (hkind.symm.trans hv)
      rfl
    · obtain rfl := Option.some.inj (hmetadata.symm.trans hv)
      exact h.metadata.normal.ordered
  · rw [get?_fields hname] at hv
    exact Json.ordered_of_get? h.body.ordered hv

/-- The object with other metadata of its kind. -/
theorem WellFormed.revise (h : o.WellFormed) {labels : Option (Table String String)}
    {name ns : Option String} {refs : Option (List OwnerReference)} {version uid : Option String}
    (hlabels : ∀ t, labels = some t → Table.Sorted t) :
    (o.mapMetadata (·.revise labels name ns refs version uid)).WellFormed :=
  ⟨h.names, h.metadata.revise hlabels, h.body⟩

end ManagedObject

end NodeFeatureOperator
