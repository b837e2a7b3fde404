import NodeFeatureOperator.Registry
import NodeFeatureOperator.Proofs.Decoding

/-!
# Documents read again

Reading a document drops what its kind does not know, fills in what the kind demands and brings
numbers, bytes and times to one spelling. All of this happens in one step: the document that is
written for what was read gives the same object again, whether it is read for its own kind or goes
through a free document (`ManagedObject.ofDocument_settles`). Behind it stands the detour of a
well-formed object through a free document, which loses nothing
(`ManagedObject.WellFormed.toFree?_eq`, `ManagedObject.WellFormed.toObject?_free`).

The names of every document of a YAML text stand in order (`Yaml.Value.toJson?_ordered`), as they do
in every document here.
-/

namespace NodeFeatureOperator

/-! ## Documents of YAML values -/

theorem Table.sorted_ofRows {κ α : Type} [DecidableEq κ] [Ord κ] [Std.TransOrd κ]
    [Std.LawfulEqOrd κ] (rows : List (κ × α)) : Sorted (ofRows rows) := by
  have hfold (t : Table κ α) (ht : Sorted t) :
      Sorted (rows.foldl (fun t row => insert t row.1 row.2) t) := by
    induction rows generalizing t with
    | nil => exact ht
    | cons row rows ih => exact ih _ (ht.insert row.1 row.2)
  exact hfold [] List.Pairwise.nil

theorem Table.mem_of_mem_ofRows {κ α : Type} [DecidableEq κ] [Ord κ] {rows : List (κ × α)}
    {row : κ × α} (h : row ∈ ofRows rows) : row ∈ rows := by
  have hfold (rows : List (κ × α)) (t : Table κ α)
      (h : row ∈ rows.foldl (fun t row => insert t row.1 row.2) t) : row ∈ t ∨ row ∈ rows := by
    induction rows generalizing t with
    | nil => exact Or.inl h
    | cons r rows ih =>
      rcases ih _ h with h | h
      · rcases mem_insert h with rfl | h
        · exact Or.inr List.mem_cons_self
        · exact Or.inl h
      · exact Or.inr (List.mem_cons_of_mem r h)
  exact (hfold rows [] h).resolve_left fun hnil => nomatch hnil

theorem Json.ordered_ofFields {fields : List (String × Json)}
    (h : ∀ row ∈ fields, row.2.ordered = true) : (ofFields fields).ordered = true :=
  ordered_obj.2 ⟨Table.sorted_ofRows fields, fun row hrow => h row (Table.mem_of_mem_ofRows hrow)⟩

namespace Yaml.Value

mutual

theorem toJson?_ordered : (v : Value) → ∀ j, v.toJson? = some j → j.ordered = true
  | .null, _, h | .bool _, _, h | .int _, _, h | .str _, _, h => by
    obtain rfl := Option.some.inj h
    rfl
  | .float x, _, h => by
    obtain rfl := Option.some.inj h
    split <;> rfl
  | .seq items, _, h => by
    obtain ⟨js, hjs, rfl⟩ := Option.map_eq_some_iff.1 h
    exact Json.ordered_arr.2 (itemsToJson?_ordered items js hjs)
  | .map entries, _, h => by
    obtain ⟨fields, hfields, rfl⟩ := Option.map_eq_some_iff.1 h
    exact Json.ordered_ofFields (entriesToJson?_ordered entries fields hfields)
  | .tagged tag v, _, h => by
    obtain ⟨j, hj, rfl⟩ := Option.map_eq_some_iff.1 h
    refine Json.ordered_obj.2 ⟨List.pairwise_singleton _ _, fun row hrow => ?_⟩
    obtain rfl := List.mem_singleton.1 hrow
    exact toJson?_ordered v j hj

theorem itemsToJson?_ordered : (vs : List Value) → ∀ js, itemsToJson? vs = some js →
    ∀ j ∈ js, j.ordered = true
  | [], _, h => by
    obtain rfl := Option.some.inj h
    exact fun _ hj => nomatch hj
  | v :: vs, _, h => by
    rw [itemsToJson?] at h
    split at h
    · next j js hj hjs =>
      obtain rfl := Option.some.inj h
      exact List.forall_mem_cons.2 ⟨toJson?_ordered v j hj, itemsToJson?_ordered vs js hjs⟩
    · cases h

theorem entriesToJson?_ordered : (entries : List (Value × Value)) → ∀ fields,
    entriesToJson? entries = some fields → ∀ row ∈ fields, row.2.ordered = true
  | [], _, h => by
    obtain rfl := Option.some.inj h
    exact fun _ hrow => nomatch hrow
  | (_, v) :: entries, _, h => by
    rw [entriesToJson?] at h
    split at h
    · next j fields _ hj hfields =>
      obtain rfl := Option.some.inj h
      exact List.forall_mem_cons.2
        ⟨toJson?_ordered v j hj, entriesToJson?_ordered entries fields hfields⟩
    · cases h

end

end Yaml.Value

/-! ## The detour through a free document -/

theorem Kind.toText_of_ofText? {kind : Kind} {text : String} (h : ofText? text = some kind) :
    kind.toText = text := by
  simpa using List.find?_some h

namespace ManagedObject

variable {o : ManagedObject} {j : Json} {kind : Kind}

/-- The body of a well-formed object has nothing under the names of the head. -/
theorem WellFormed.get?_body_head (h : o.WellFormed) {name : String}
    (hname : name ∈ Kind.headNames) : Table.get? o.body name = none := by
  have hunknown : Table.get? o.kind.body.fields name = none :=
    Table.get?_eq_none_iff.2 fun row hrow heq => Kind.not_mem_headNames hrow (heq ▸ hname)
  have hfield := (Kind.body_normal_iff.1 h.body).2 name
  rwa [hunknown] at hfield

/-- A well-formed object as a free document. -/
theorem WellFormed.toFree?_eq (h : o.WellFormed) :
    o.toFree? = some ⟨some o.names, o.metadata, o.body⟩ := by
  obtain ⟨hversion, hkind, hmetadata⟩ := o.get?_fields_head
  -- What is left of the fields when those of the head are taken out one after the other.
  have hrest : Table.erase (Table.erase (Table.erase o.fields "metadata") "apiVersion") "kind"
      = o.body := by
    refine ((((fields_sorted h.sorted).erase _).erase _).erase _).ext h.sorted fun name => ?_
    by_cases hname : name ∈ Kind.headNames
    · rw [h.get?_body_head hname]
      simp only [Kind.headNames, List.mem_cons, List.not_mem_nil, or_false] at hname
      rcases hname with rfl | rfl | rfl <;> simp [Table.get?_erase]
    · have hother := get?_fields (o := o) hname
      simp only [Kind.headNames, List.mem_cons, List.not_mem_nil, or_false, not_or] at hname
      obtain ⟨h₁, h₂, h₃⟩ := hname
      simp only [Table.get?_erase, Ne.symm h₁, Ne.symm h₂, Ne.symm h₃, if_false, hother]
  have htake : FreeDocument.takeNames (Table.erase o.fields "metadata")
      = (some o.names, o.body) := by
    unfold FreeDocument.takeNames
    simp only [Table.get?_erase, hversion, hkind, hrest, String.reduceEq, if_false]
  unfold toFree? FreeDocument.decode?
  rw [toJson_eq]
  simp only [Json.asObject?, htake, hmetadata, h.metadata.decode?, Option.bind_some,
    Option.bind_eq_bind, Option.pure_def]

/-- The free document of a well-formed object gives the object back. -/
theorem WellFormed.toObject?_free (h : o.WellFormed) :
    FreeDocument.toObject? o.kind ⟨some o.names, o.metadata, o.body⟩ = some o := by
  refine decode?_of_fields ?_ (Table.get?_insert_self ..) ?_ (fun name hname => ?_) h
  · simp [Table.get?_insert]
  · simp [Table.get?_insert]
  · simp only [Kind.headNames, List.mem_cons, List.not_mem_nil, or_false, not_or] at hname
    obtain ⟨h₁, h₂, h₃⟩ := hname
    simp only [Table.get?_insert, Ne.symm h₁, Ne.symm h₂, Ne.symm h₃, if_false]

/-! ## Documents that say their kind -/

/-- An object has the kind that it is read for, and the name of a kind that its document says. -/
theorem decode?_names {text : String} (hkind : j.get? "kind" = some (.str text))
    (h : decode? kind j = some o) : o.kind = kind ∧ o.names.kind = text := by
  obtain ⟨fs, hfs, h⟩ := Option.bind_eq_some_iff.1 h
  obtain ⟨names, hnames, h⟩ := Option.bind_eq_some_iff.1 h
  obtain ⟨m, -, h⟩ := Option.bind_eq_some_iff.1 h
  obtain ⟨body, -, h⟩ := Option.bind_eq_some_iff.1 h
  obtain rfl := Option.some.inj h
  refine ⟨rfl, ?_⟩
  have hget : Table.get? fs "kind" = some (.str text) := by
    rw [Json.get?, hfs] at hkind
    exact hkind
  unfold decodeNames? decodeNames?.name? at hnames
  rw [hget] at hnames
  obtain ⟨apiVersion, -, hnames⟩ := Option.bind_eq_some_iff.1 hnames
  obtain ⟨-, rfl⟩ := Option.ite_some_none_eq_some.1 hnames
  rfl

/-- A document that says its kind is read for this kind. -/
theorem ofDocument_eq_ok : ofDocument j = .ok o ↔
    j.get? "kind" = some (.str o.kind.toText) ∧ decode? o.kind j = some o := by
  constructor
  · intro h
    unfold ofDocument at h
    split at h
    · cases h
    · next text htext =>
      obtain ⟨v, hv, hstr⟩ := Option.bind_eq_some_iff.1 htext
      split at h
      · cases h
      · next kind hkind =>
        split at h
        · next hdecode =>
          cases h
          cases v with
          | str s =>
            obtain rfl := Option.some.inj hstr
            obtain ⟨rfl, -⟩ := decode?_names hv hdecode
            exact ⟨by rw [Kind.toText_of_ofText? hkind, hv], hdecode⟩
          | _ => cases hstr
        · cases h
  · rintro ⟨hkind, hdecode⟩
    unfold ofDocument
    rw [hkind]
    simp only [Option.bind_some, Json.asString?, Kind.ofText?_toText, hdecode]

/-- Reading and writing a document settles in one step. When a document is read, of whatever kind,
the document that is written for what was read gives that very object, and so the same kind, key and
document; and so does the free document of the object. -/
theorem ofDocument_settles (v : Json) (hv : v.ordered = true) (h : ofDocument v = .ok o) :
    ofDocument o.toJson = .ok o ∧ decode? o.kind o.toJson = some o ∧
      ∃ d, o.toFree? = some d ∧ d.toObject? o.kind = some o := by
  obtain ⟨hkind, hdecode⟩ := ofDocument_eq_ok.1 h
  have hwell : o.WellFormed := decode?_wellFormed hv hdecode
  have hname : o.toJson.get? "kind" = some (.str o.kind.toText) := by
    rw [← (decode?_names hkind hdecode).2]
    exact o.get?_fields_head.2.1
  exact ⟨ofDocument_eq_ok.2 ⟨hname, hwell.decode?_toJson⟩, hwell.decode?_toJson,
    _, hwell.toFree?_eq, hwell.toObject?_free⟩

theorem ofDocument_settles_of_loose :
    let v := Json.obj [("fsGroup", .null), ("kind", .str "SecurityContextConstraints"),
      ("metadata", .obj [("creationTimestamp", .str "2024-01-01T00:30:05.678+01:00"),
        ("labels", .null), ("name", .str "a"), ("nickname", .str "b")]),
      ("priority", .int 10), ("runAsUser", .obj [("type", .arr [.null, .int 1, .float 2])]),
      ("unknown", .bool true)]
    ∃ o, v.ordered = true ∧ ofDocument v = .ok o ∧
      o.toJson.at? ["metadata"] = some (.obj [("creationTimestamp", .str "2023-12-31T23:30:05Z"),
        ("name", .str "a")]) ∧
      ofDocument o.toJson = .ok o ∧ decode? o.kind o.toJson = some o ∧
      ∃ d, o.toFree? = some d ∧ d.toObject? o.kind = some o := by
  intro v
  obtain ⟨o, ho, hmetadata⟩ : ∃ o, ofDocument v = .ok o ∧
      o.toJson.at? ["metadata"] = some (.obj [("creationTimestamp", .str "2023-12-31T23:30:05Z"),
        ("name", .str "a")]) :=
    ⟨(decode? .securityContextConstraints v).getD default, by decide +kernel, by decide +kernel⟩
  exact ⟨o, by decide +kernel, ho, hmetadata, ofDocument_settles v (by decide +kernel) ho⟩

end ManagedObject

end NodeFeatureOperator
