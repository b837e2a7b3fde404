import NodeFeatureOperator.Convergence
import NodeFeatureOperator.Proofs.Documents

/-!
# Objects keep to their resources

A template, the object that an instance wants of it, and the object that a live one is replaced by
all stand for one resource of the instance (`ManagedObject.StandsFor`), so they are stored under the
key of the resource. For a live object this rests on two facts: the wanted object names its kind,
its name and its namespace, and a document keeps these when it is laid over another.
-/

namespace NodeFeatureOperator

namespace ManagedObject

/-- The object has kind, name and place of a resource of the instance. -/
structure StandsFor (o : ManagedObject) (r : Resource) (i : Instance) : Prop where
  kind : o.kind = r.kind
  name : o.metadata.name = some r.name
  ns : r.kind.clusterScoped = false → o.metadata.ns = some i.ns

/-- The object is fit to be the template of a resource. -/
structure IsTemplate (o : ManagedObject) (r : Resource) : Prop where
  kind : o.kind = r.kind
  name : o.metadata.name = some r.name
  sorted : o.body.Sorted
  unowned : o.metadata.ownerReferences = none
  noStatus : Table.get? o.body "status" = none

variable {o live wished : ManagedObject} {r : Resource} {i : Instance}

theorem StandsFor.key_eq (h : o.StandsFor r i) : o.key = r.key i := by
  unfold key Resource.key Key.forInstance ManagedObject.name
  rw [h.kind, h.name]
  cases hscope : r.kind.clusterScoped with
  | true => rfl
  | false =>
    rw [h.ns hscope]
    rfl

/-! ## Desired objects -/

@[simp] theorem setPlace_kind (o : ManagedObject) (i : Instance) :
    (o.setPlace i).kind = o.kind := rfl

@[simp] theorem setBody_kind (o : ManagedObject) (i : Instance) (image : String) :
    (o.setBody i image).kind = o.kind := by
  unfold setBody
  repeat' split
  all_goals rfl

@[simp] theorem setBody_metadata (o : ManagedObject) (i : Instance) (image : String) :
    (o.setBody i image).metadata = o.metadata := by
  unfold setBody
  repeat' split
  all_goals rfl

theorem modifyAt_sorted (h : o.body.Sorted) (name : String) (path : List String)
    (f : Json → Json) : (o.modifyAt (name :: path) f).body.Sorted :=
  h.modify name (·.modifyAt path f)

theorem setBody_sorted (h : o.body.Sorted) (i : Instance) (image : String) :
    (o.setBody i image).body.Sorted := by
  unfold setBody
  repeat' split
  all_goals first | exact h | exact modifyAt_sorted h .. | exact h.insert ..

theorem get?_modifyAt_body (o : ManagedObject) (name : String) (path : List String)
    (f : Json → Json) {k : String} (hk : name ≠ k) :
    Table.get? (o.modifyAt (name :: path) f).body k = Table.get? o.body k :=
  (Table.get?_modify o.body name (·.modifyAt path f) k).trans (if_neg hk)

theorem setBody_noStatus (h : Table.get? o.body "status" = none) (i : Instance) (image : String) :
    Table.get? (o.setBody i image).body "status" = none := by
  unfold setBody
  repeat' split
  all_goals first
    | exact h
    | exact (get?_modifyAt_body _ _ _ _ (by decide)).trans h
    | exact (Table.get?_insert ..).trans ((if_neg (by decide)).trans h)

theorem setPlace_name (o : ManagedObject) (i : Instance) :
    (o.setPlace i).metadata.name = o.metadata.name := by
  unfold setPlace mapMetadata
  dsimp only
  split <;> rfl

theorem setPlace_ownerReferences (o : ManagedObject) (i : Instance) :
    (o.setPlace i).metadata.ownerReferences = o.metadata.ownerReferences := by
  unfold setPlace mapMetadata
  dsimp only
  split <;> rfl

theorem setPlace_ns (i : Instance) (h : o.kind.clusterScoped = false) :
    (o.setPlace i).metadata.ns = some i.ns := by
  unfold setPlace mapMetadata
  dsimp only
  rw [if_neg (by simp [h])]

theorem IsTemplate.desired (h : o.IsTemplate r) (i : Instance) (image : String) :
    (o.setDesired i image).StandsFor r i where
  kind := by
    unfold setDesired
    rw [setBody_kind, setPlace_kind, h.kind]
  name := by
    unfold setDesired
    rw [setBody_metadata, setPlace_name, h.name]
  ns hscope := by
    unfold setDesired
    rw [setBody_metadata, setPlace_ns i (by rw [h.kind, hscope])]

theorem IsTemplate.desired_sorted (h : o.IsTemplate r) (i : Instance) (image : String) :
    (o.setDesired i image).body.Sorted :=
  setBody_sorted (o := o.setPlace i) h.sorted i image

theorem IsTemplate.desired_noStatus (h : o.IsTemplate r) (i : Instance) (image : String) :
    Table.get? (o.setDesired i image).body "status" = none :=
  setBody_noStatus (o := o.setPlace i) h.noStatus i image

theorem IsTemplate.desired_unowned (h : o.IsTemplate r) (i : Instance) (image : String) :
    (o.setDesired i image).metadata.ownerReferences = none := by
  unfold setDesired
  rw [setBody_metadata, setPlace_ownerReferences, h.unowned]

/-! ## Objects under an owner -/

theorem own_of_clusterScoped (h : o.kind.clusterScoped = true) : o.own i = .ok o := by
  unfold own
  rw [if_pos h]

/-- The owner is all that taking control of an object changes. -/
theorem own_ok {o' : ManagedObject} (h : o.own i = .ok o') :
    ∃ refs, o' = o.mapMetadata fun m => { m with ownerReferences := refs } := by
  unfold own at h
  split at h
  · exact ⟨o.metadata.ownerReferences, (Except.ok.inj h).symm⟩
  · split at h
    · cases h
    · dsimp only at h
      split at h
      · cases h
      · exact ⟨_, (Except.ok.inj h).symm⟩

/-- An instance that can own takes control of what nobody owns. -/
theorem own_of_unowned (hi : i.controllerReference?.isSome)
    (ho : o.metadata.ownerReferences = none) : ∃ o', o.own i = .ok o' := by
  obtain ⟨owner, howner⟩ := Option.isSome_iff_exists.1 hi
  unfold own
  rw [howner, ho]
  split
  · exact ⟨o, rfl⟩
  · exact ⟨_, rfl⟩

/-- An instance that cannot own takes control of nothing in its namespace. -/
theorem own_of_no_owner (hi : i.controllerReference? = none) (ho : o.kind.clusterScoped = false) :
    o.own i = .error (.ownerReference o.key "the instance has no uid") := by
  unfold own
  rw [ho, hi]
  rfl

theorem StandsFor.own {o' : ManagedObject} (h : o.StandsFor r i) (hown : o.own i = .ok o') :
    o'.StandsFor r i := by
  obtain ⟨refs, rfl⟩ := own_ok hown
  exact ⟨h.kind, h.name, h.ns⟩

/-! ## Live objects -/

theorem keepServerFields_kind (o live : ManagedObject) :
    (o.keepServerFields live).kind = o.kind := by
  unfold keepServerFields
  dsimp only
  split
  · exact modifyAt_kind ..
  · rfl

theorem keepServerFields_metadata (o live : ManagedObject) :
    (o.keepServerFields live).metadata
      = { o.metadata with resourceVersion := live.metadata.resourceVersion } := by
  unfold keepServerFields
  dsimp only
  split
  · exact modifyAt_metadata ..
  · rfl

theorem StandsFor.keepServerFields (h : o.StandsFor r i) (live : ManagedObject) :
    (o.keepServerFields live).StandsFor r i where
  kind := by rw [keepServerFields_kind, h.kind]
  name := by rw [keepServerFields_metadata, h.name]
  ns hscope := by rw [keepServerFields_metadata, h.ns hscope]

/-- The document of an object has its metadata among its fields. -/
theorem toJson_fields (o : ManagedObject) :
    ∃ fs : Json.Fields, o.toJson = .obj fs ∧
      Table.get? fs "metadata" = some o.metadata.toJson ∧ (o.body.Sorted → fs.Sorted) :=
  ⟨_, rfl, Table.get?_insert_self .., fun h => ((h.insert ..).insert ..).insert ..⟩

/-- What is laid on a live object leaves its metadata for the merge. -/
theorem liveBase_fields (live wished : ManagedObject) :
    ∃ fs, liveBase live wished = .obj fs ∧
      Table.get? fs "metadata" = some live.metadata.toJson := by
  obtain ⟨fs, hfs, hmeta, -⟩ := toJson_fields live
  unfold liveBase
  rw [hfs]
  split
  · refine ⟨_, rfl, ?_⟩
    rw [Table.get?_insert, if_neg (by decide), hmeta]
  · exact ⟨fs, rfl, hmeta⟩

/-- The metadata that a live object has when another is laid over it are what is read from the
metadata of both. -/
theorem laidOver_metadata (hsorted : wished.body.Sorted) (h : live.laidOver wished = .ok o) :
    o.kind = live.kind ∧ Metadata.decode? (.obj (Json.mergeFields live.metadata.toFields
      { wished.metadata with resourceVersion := none, uid := none }.toFields))
        = some o.metadata := by
  unfold laidOver wanted at h
  obtain ⟨ls, hbase, hlive⟩ := liveBase_fields live wished
  obtain ⟨ds, hwanted, hmeta, hds⟩ := toJson_fields
    (wished.mapMetadata fun m => { m with resourceVersion := none, uid := none })
  rw [hbase, hwanted, Json.merge] at h
  split at h
  · next o' hdecode =>
    obtain rfl := Except.ok.inj h
    obtain ⟨names, -, hdecode⟩ := Option.bind_eq_some_iff.1 hdecode
    obtain ⟨m, hm, hdecode⟩ := Option.bind_eq_some_iff.1 hdecode
    obtain ⟨body, -, hdecode⟩ := Option.bind_eq_some_iff.1 hdecode
    obtain rfl := Option.some.inj hdecode
    -- The fields laid over the live ones stand in order, so each name is laid over once.
    have hmerged : Table.get? (Json.mergeFields ls ds) "metadata" = some (.obj
        (Json.mergeFields live.metadata.toFields
          { wished.metadata with resourceVersion := none, uid := none }.toFields)) := by
      rw [Json.get?_mergeFields_of_both (hds hsorted).names_nodup hlive hmeta, Metadata.toJson,
        Metadata.toJson, Json.merge]
      rfl
    rw [decodeMetadata?, hmerged] at hm
    exact ⟨rfl, hm⟩
  · cases h

theorem laidOver_ok (hsorted : wished.body.Sorted) (h : live.laidOver wished = .ok o) :
    o.kind = live.kind ∧ (∀ name, wished.metadata.name = some name → o.metadata.name = some name) ∧
      ∀ ns, wished.metadata.ns = some ns → o.metadata.ns = some ns := by
  obtain ⟨hkind, hm⟩ := laidOver_metadata hsorted h
  obtain ⟨hname, hns⟩ := Metadata.decode?_mergeFields hm
  exact ⟨hkind, hname, hns⟩

/-- The steps in which a live object is brought to what it is replaced by. -/
theorem converged_ok (h : live.converged wished i = .ok o) :
    ∃ laid owned, live.laidOver wished = .ok laid ∧ laid.own i = .ok owned ∧
      o = owned.keepServerFields live := by
  unfold ManagedObject.converged at h
  cases hlaid : live.laidOver wished with
  | error e => simp [hlaid, bind, Except.bind] at h
  | ok laid =>
    cases howned : laid.own i with
    | error e => simp [hlaid, howned, bind, Except.bind] at h
    | ok owned =>
      refine ⟨laid, owned, rfl, howned, ?_⟩
      simpa [hlaid, howned, bind, Except.bind, pure, Except.pure] using h.symm

theorem StandsFor.converged (hwished : wished.StandsFor r i) (hsorted : wished.body.Sorted)
    (hkind : live.kind = r.kind) (h : live.converged wished i = .ok o) : o.StandsFor r i := by
  obtain ⟨laid, owned, hlaid, howned, rfl⟩ := converged_ok h
  obtain ⟨hlkind, hlname, hlns⟩ := laidOver_ok hsorted hlaid
  have hstands : laid.StandsFor r i :=
    ⟨hlkind.trans hkind, hlname _ hwished.name, fun hs => hlns _ (hwished.ns hs)⟩
  exact (hstands.own howned).keepServerFields live

end ManagedObject

/-! ## Registries -/

namespace Registry

variable {templates : Registry} {r : Resource} {i : Instance} {image : String} {o : ManagedObject}

/-- Whatever is found in the registry is fit to be the template of what it was looked up for. -/
def Sound (templates : Registry) : Prop :=
  ∀ r o, Table.get? templates.templates r = some o → o.IsTemplate r

theorem Sound.add (h : templates.Sound) (ho : o.IsTemplate o.resource) :
    (templates.add o).Sound := by
  intro r o' ho'
  unfold Registry.add at ho'
  rw [Table.get?_insert] at ho'
  split at ho'
  · next heq =>
    obtain rfl := Option.some.inj ho'
    rwa [← heq]
  · exact h r o' ho'

theorem Sound.addAll (os : List ManagedObject) (h : templates.Sound)
    (hos : ∀ o ∈ os, o.IsTemplate o.resource) : (os.foldl Registry.add templates).Sound := by
  induction os generalizing templates with
  | nil => exact h
  | cons o os ih =>
    exact ih (h.add (hos o List.mem_cons_self)) fun o' ho' => hos o' (List.mem_cons_of_mem _ ho')

/-- What makes an object fit to be the template of its own resource, apart from its kind. -/
theorem isTemplate_resource_iff :
    o.IsTemplate o.resource ↔ o.metadata.name.isSome ∧ o.body.Sorted ∧
      o.metadata.ownerReferences = none ∧ Table.get? o.body "status" = none := by
  constructor
  · intro h
    exact ⟨by rw [h.name]; rfl, h.sorted, h.unowned, h.noStatus⟩
  · rintro ⟨hname, hsorted, hunowned, hstatus⟩
    obtain ⟨name, hname⟩ := Option.isSome_iff_exists.1 hname
    refine ⟨rfl, ?_, hsorted, hunowned, hstatus⟩
    unfold ManagedObject.resource ManagedObject.name
    rw [hname]
    rfl

instance : Decidable (o.IsTemplate o.resource) := decidable_of_iff _ isTemplate_resource_iff.symm

theorem own_sound : own.Sound := by
  refine Sound.addAll _ (fun r o ho => by cases ho) ?_
  decide +kernel

/-- What is rendered for a resource is its template with the settings of the instance. -/
theorem render_ok (h : templates.render i r image = .ok o) :
    ∃ t, Table.get? templates.templates r = some t ∧ o = t.setDesired i image := by
  unfold render get at h
  cases ht : Table.get? templates.templates r with
  | none => simp [ht] at h
  | some t =>
    rw [ht] at h
    exact ⟨t, rfl, (Except.ok.inj h).symm⟩

theorem render_of_get? {t : ManagedObject} (h : Table.get? templates.templates r = some t) :
    templates.render i r image = .ok (t.setDesired i image) := by
  unfold render get
  rw [h]

end Registry

end NodeFeatureOperator
