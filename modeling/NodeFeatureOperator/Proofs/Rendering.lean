import NodeFeatureOperator.Component
import NodeFeatureOperator.Proofs.Overlay

/-!
# Desired objects are well-formed

The settings of an instance are laid on a template at places whose types they have, so a
well-formed template gives a well-formed object (`ManagedObject.Wish.setDesired`). For every place
this takes the schema at the place and a change that is stable for it; the rest follows from the
path that leads there. All templates of the operator itself are well-formed
(`Registry.own_wellFormed`).
-/

namespace NodeFeatureOperator

/-! ## What an instance asks for -/

/-- The port fits the 32 bits of its type. -/
def InstanceSpec.WellFormed (s : InstanceSpec) : Prop :=
  ∀ port, s.servicePort = some port → Schema.fits32 port = true

theorem InstanceSpec.WellFormed.of_unset {s : InstanceSpec} (h : s.servicePort = none) :
    s.WellFormed := by
  intro port hport
  rw [h] at hport
  cases hport

namespace Instance

variable {i : Instance}

theorem servicePort_fits (h : i.spec.WellFormed) : Schema.fits32 i.servicePort = true := by
  unfold servicePort
  cases hport : i.spec.servicePort with
  | none => rfl
  | some port =>
    rw [Option.filter_some]
    split
    · exact h port hport
    · rfl

theorem configFiles_sorted (i : Instance) : Table.Sorted i.configFiles := by
  unfold configFiles
  cases i.customConfig with
  | none => exact List.pairwise_singleton ..
  | some content =>
    refine List.pairwise_pair.2 ?_
    change compare customConfigKey workerConfigKey = .lt
    decide

end Instance

/-! ## Changes of pods -/

namespace Schema

variable {s t : Schema} {p : Presence} {name : String}

theorem normal_int32 {n : Int} (h : fits32 n = true) : int32.Normal (.int n) :=
  ⟨if_pos h, rfl⟩

theorem normal_intOrText {n : Int} (h : fits32 n = true) : intOrText.Normal (.int n) :=
  ⟨if_pos h, rfl⟩

/-- To put what is normal and not null under a name is stable. -/
theorem Stable.put (hs : s.ordered = true) (hname : Table.get? s.fields name = some (p, t))
    {v : Json} (hv : t.Normal v) (hsolid : v ≠ .null) : s.Stable (·.set name v) :=
  .set hs hname (fun _ _ => hv) fun _ => hsolid

theorem Stable.put_text (hs : s.ordered = true)
    (hname : Table.get? s.fields name = some (p, .text)) (text : String) :
    s.Stable (·.set name (.str text)) :=
  .put hs hname (normal_text.2 ⟨text, rfl⟩) nofun

theorem at?_podPath {k : Kind} (h : k = .daemonSet ∨ k = .deployment ∨ k = .job) :
    k.body.at? ManagedObject.podPath = some podSpec := by
  rcases h with rfl | rfl | rfl <;> rfl

theorem podSpec_ordered : podSpec.ordered = true :=
  ordered_at? (Kind.body_ordered .daemonSet) (at?_podPath (Or.inl rfl))

theorem get?_containers :
    Table.get? podSpec.fields "containers" = some (.required, .list container) := rfl

theorem get?_volumes : Table.get? podSpec.fields "volumes" = some (.optional, .list volume) := rfl

theorem container_ordered : container.ordered = true := by
  have h := ordered_of_get? podSpec_ordered get?_containers
  rwa [ordered] at h

theorem volume_ordered : volume.ordered = true := by
  have h := ordered_of_get? podSpec_ordered get?_volumes
  rwa [ordered] at h

end Schema

namespace Pod

open Schema

theorem setImages_stable (image pullPolicy : String) :
    podSpec.Stable (setImages · image pullPolicy) := by
  have hcontainer : container.Stable fun c =>
      (c.set "image" (.str image)).set "imagePullPolicy" (.str pullPolicy) :=
    .comp (.put_text (p := .optional) container_ordered rfl pullPolicy)
      (.put_text (p := .optional) container_ordered rfl image)
  exact .modify podSpec_ordered get?_containers hcontainer.mapItems

theorem modifyFirstContainer_stable {f : Json → Json} (hf : container.Stable f) :
    podSpec.Stable (modifyFirstContainer · f) :=
  .modify podSpec_ordered get?_containers hf.modifyHead

theorem setArguments_stable (arguments : List String) : podSpec.Stable (setArguments · arguments) :=
  modifyFirstContainer_stable
    (.put (p := .optional) container_ordered rfl (normal_texts arguments) nofun)

theorem addArguments_stable (arguments : List String) :
    podSpec.Stable (addArguments · arguments) := by
  refine modifyFirstContainer_stable
    (.set (p := .optional) container_ordered rfl (fun c hc => ?_) fun _ => nofun)
  -- What was there are texts, and so is what is added.
  have hpresent : ∀ x ∈ ((c.get? "args").bind Json.asArray?).getD [], Schema.text.Normal x := by
    intro x hx
    obtain ⟨fs, rfl, -, hfields⟩ :=
      (normal_record (ordered_record.1 container_ordered).1).1 hc
    have hargs := hfields "args"
    cases hv : Table.get? fs "args" with
    | none => simp [Json.get?, Json.asObject?, hv] at hx
    | some v =>
      rw [hv] at hargs
      obtain ⟨xs, rfl, hxs⟩ := normal_list.1 (show texts.Normal v from hargs.1)
      simp only [Json.get?, Json.asObject?, Option.bind_some, hv, Json.asArray?,
        Option.getD_some] at hx
      exact hxs x hx
  refine normal_list.2 ⟨_, rfl, fun x hx => ?_⟩
  rcases List.mem_append.1 hx with hx | hx
  · exact hpresent x hx
  · obtain ⟨s, -, rfl⟩ := List.mem_map.1 (List.mem_filter.1 hx).1
    exact normal_text.2 ⟨s, rfl⟩

theorem setPort_stable {port : Int} (h : fits32 port = true) : podSpec.Stable (setPort · port) := by
  have hports : Table.get? container.fields "ports" = some (.optional, .list containerPort) := rfl
  have hordered := ordered_of_get? container_ordered hports
  rw [ordered] at hordered
  have hport : containerPort.Stable (·.set "containerPort" (.int port)) :=
    .put (p := .required) hordered rfl (normal_int32 h) (by simp)
  exact modifyFirstContainer_stable (.modify container_ordered hports hport.modifyHead)

theorem configItem_normal (name : String) : keyToPath.Normal (configItem name) := by
  refine ⟨rfl, ?_⟩
  have hnames : compare "key" "path" = .lt := by decide
  simp [configItem, Json.ordered, Json.orderedFields, Table.ascending, hnames]

theorem setConfigItems_stable (names : List String) :
    podSpec.Stable (setConfigItems · names) := by
  have hsource : Table.get? volume.fields "configMap" = some (.optional, configMapVolume) := rfl
  have hitems : (list keyToPath).Normal (.arr (names.map configItem)) := by
    refine normal_list.2 ⟨_, rfl, fun x hx => ?_⟩
    obtain ⟨name, -, rfl⟩ := List.mem_map.1 hx
    exact configItem_normal name
  have hset : configMapVolume.Stable (·.set "items" (.arr (names.map configItem))) :=
    .put (p := .optional) (ordered_of_get? volume_ordered hsource) rfl hitems nofun
  have hvolume : volume.Stable fun v =>
      v.modify "configMap" (·.set "items" (.arr (names.map configItem))) :=
    .modify volume_ordered hsource hset
  exact .modify podSpec_ordered get?_volumes (hvolume.modifyFirst _)

end Pod

/-! ## Objects -/

namespace ManagedObject

open Schema

variable {o t : ManagedObject} {i : Instance} {image : String}

/-- A change that is stable for the place where it is made leaves an object well-formed. -/
theorem WellFormed.modifyAt (ho : o.WellFormed) {path : List String} {s : Schema} {f : Json → Json}
    (hpath : o.kind.body.at? path = some s) (hf : s.Stable f) : (o.modifyAt path f).WellFormed := by
  have hbody := (hf.modifyAt o.kind.body_ordered hpath).normal _ ho.body
  unfold ManagedObject.modifyAt
  split
  · next body heq =>
    rw [heq] at hbody
    exact ⟨ho.names, ho.metadata, hbody⟩
  · exact ho

theorem WellFormed.labels_sorted (ho : o.WellFormed) :
    Table.Sorted (o.metadata.labels.getD []) := by
  cases hl : o.metadata.labels with
  | none => exact List.Pairwise.nil
  | some t => exact ho.metadata.labels_sorted t hl

theorem WellFormed.setPlace (ho : o.WellFormed) (i : Instance) : (o.setPlace i).WellFormed := by
  have hmanaged := ho.labels_sorted.insert managedByLabel managedBy
  unfold ManagedObject.setPlace
  refine ⟨ho.names, ?_, ho.body⟩
  unfold mapMetadata
  dsimp only
  split
  · refine ho.metadata.revise fun t ht => ?_
    obtain rfl := Option.some.inj ht
    exact hmanaged
  · refine ho.metadata.revise fun t ht => ?_
    obtain rfl := Option.some.inj ht
    exact hmanaged.insert instanceLabel i.name

/-- The pod of a workload takes the settings of an instance. -/
theorem WellFormed.setPod (ho : o.WellFormed)
    (hkind : o.kind = .daemonSet ∨ o.kind = .deployment ∨ o.kind = .job) {f : Json → Json}
    (hf : podSpec.Stable f) : (o.modifyAt podPath f).WellFormed :=
  ho.modifyAt (at?_podPath hkind) hf

/-- The subjects of a binding of either scope. -/
theorem WellFormed.setSubjects (ho : o.WellFormed)
    (hkind : o.kind = .roleBinding ∨ o.kind = .clusterRoleBinding) (ns : String) :
    (o.modifyAt ["subjects"] (·.mapItems (·.set "namespace" (.str ns)))).WellFormed := by
  have hpath : o.kind.body.at? ["subjects"] = some (.list subject) := by
    rcases hkind with hkind | hkind <;> rw [hkind] <;> rfl
  have hsubject := ordered_at? o.kind.body_ordered hpath
  rw [ordered] at hsubject
  exact ho.modifyAt hpath
    (Stable.put_text (p := .optional) hsubject (by rfl) ns).mapItems

theorem WellFormed.setUsers (ho : o.WellFormed) (hkind : o.kind = .securityContextConstraints)
    (ns : String) : (o.modifyAt ["users"] fun users => users.mapItems fun
      | .str user => .str (moveUser ns user)
      | j => j).WellFormed := by
  have hpath : o.kind.body.at? ["users"] = some texts := by
    rw [hkind]
    rfl
  refine ho.modifyAt hpath (Stable.mapItems ⟨fun j hj => ?_, fun j hj => ?_⟩)
  · obtain ⟨s, rfl⟩ := normal_text.1 hj
    exact normal_text.2 ⟨_, rfl⟩
  · cases j with
    | str s => cases hj
    | _ => exact hj

theorem WellFormed.setFiles (ho : o.WellFormed) (hkind : o.kind = .configMap)
    {files : Table String String} (hfiles : Table.Sorted files) :
    (o.setField "data" (.ofStringTable files)).WellFormed := by
  have hdata : Table.get? o.kind.body.fields "data" = some (.optional, textTable) := by
    rw [hkind]
    rfl
  have hset : o.kind.body.Stable (·.set "data" (.ofStringTable files)) :=
    .put o.kind.body_ordered hdata (normal_textTable.2 ⟨files, rfl, hfiles⟩) nofun
  exact ⟨ho.names, ho.metadata, hset.normal _ ho.body⟩

theorem WellFormed.setPorts (ho : o.WellFormed) (hkind : o.kind = .service) {port : Int}
    (hport : fits32 port = true) : (o.modifyAt ["spec", "ports"] fun ports => ports.modifyHead
      fun p => (p.set "port" (.int port)).set "targetPort" (.int port)).WellFormed := by
  have hpath : o.kind.body.at? ["spec", "ports"] = some (.list servicePort) := by
    rw [hkind]
    rfl
  have hordered := ordered_at? o.kind.body_ordered hpath
  rw [ordered] at hordered
  have hboth : servicePort.Stable fun p =>
      (p.set "port" (.int port)).set "targetPort" (.int port) :=
    .comp (.put (p := .optional) hordered rfl (normal_intOrText hport) (by simp))
      (.put (p := .required) hordered rfl (normal_int32 hport) (by simp))
  exact ho.modifyAt hpath hboth.modifyHead

theorem WellFormed.setBody (ho : o.WellFormed) (hi : i.spec.WellFormed) (image : String) :
    (o.setBody i image).WellFormed := by
  have hport := i.servicePort_fits hi
  have himages := Pod.setImages_stable image i.pullPolicy
  unfold ManagedObject.setBody
  cases hkind : o.kind with
  | roleBinding => exact ho.setSubjects (Or.inl hkind) i.ns
  | clusterRoleBinding => exact ho.setSubjects (Or.inr hkind) i.ns
  | securityContextConstraints => exact ho.setUsers hkind i.ns
  | configMap => exact ho.setFiles hkind i.configFiles_sorted
  | daemonSet =>
    dsimp only
    split
    · exact ho.setPod (Or.inl hkind) (.comp (Pod.setConfigItems_stable _)
        (.comp (Pod.setArguments_stable _) himages))
    · exact ho.setPod (Or.inl hkind) himages
  | deployment =>
    dsimp only
    split
    · exact ho.setPod (Or.inr (Or.inl hkind)) (.comp (Pod.setPort_stable hport)
        (.comp (Pod.setArguments_stable _) himages))
    · exact ho.setPod (Or.inr (Or.inl hkind)) himages
  | service => exact ho.setPorts hkind hport
  | job => exact ho.setPod (Or.inr (Or.inr hkind)) (.comp (Pod.addArguments_stable _) himages)
  | serviceAccount | role | clusterRole => exact ho

/-- What stands beside a place is not changed with it. -/
theorem at?_modifyAt_beside (o : ManagedObject) {a b c : String} (h : b ≠ c) (f : Json → Json) :
    (o.modifyAt [a, b] f).at? [a, c] = o.at? [a, c] := by
  change ((Table.get? (Table.modify o.body a (·.modify b f)) a).bind fun j =>
    (j.get? c).bind some) = (Table.get? o.body a).bind fun j => (j.get? c).bind some
  rw [Table.get?_modify, if_pos rfl]
  cases Table.get? o.body a with
  | none => rfl
  | some j =>
    cases j with
    | obj fs =>
      change (Table.get? (Table.modify fs b f) c).bind some = (Table.get? fs c).bind some
      rw [Table.get?_modify, if_neg h]
    | _ => rfl

theorem setPlace_plain (h : o.metadata.Plain) (i : Instance) :
    (o.setPlace i).metadata.Plain := by
  unfold ManagedObject.setPlace mapMetadata Metadata.Plain
  dsimp only
  rw [h]
  split
  · simp only [Metadata.revise]
  · simp only [Metadata.revise]

/-- A template with the settings of an instance laid on it is well-formed and asks for nothing that
the server decides. -/
theorem Wish.setDesired (ht : t.Wish) (hi : i.spec.WellFormed) (image : String) :
    (t.setDesired i image).Wish := by
  refine ⟨(ht.wellFormed.setPlace i).setBody hi image, ?_, fun hkind name hname => ?_⟩
  · unfold ManagedObject.setDesired
    rw [setBody_metadata]
    exact setPlace_plain ht.plain i
  · have hservice : t.kind = .service := by
      unfold ManagedObject.setDesired at hkind
      rwa [setBody_kind, setPlace_kind] at hkind
    have hports : "ports" ≠ name := by
      rintro rfl
      revert hname
      decide
    unfold ManagedObject.setDesired ManagedObject.setBody
    rw [setPlace_kind, hservice]
    exact (at?_modifyAt_beside _ hports _).trans (ht.noAddress hservice name hname)

/-- The files of a configuration are those of the instance. -/
theorem get?_data_setDesired (hkind : t.kind = .configMap) (i : Instance) (image : String) :
    Table.get? (t.setDesired i image).body "data" = some (.ofStringTable i.configFiles) := by
  unfold ManagedObject.setDesired ManagedObject.setBody
  rw [setPlace_kind, hkind]
  exact Table.get?_insert_self ..

instance (d : ManagedObject) : Decidable d.Wish :=
  decidable_of_iff (d.WellFormed ∧ d.metadata.Plain ∧
      (d.kind = .service → ∀ name ∈ ["clusterIP", "clusterIPs"], d.at? ["spec", name] = none))
    ⟨fun h => ⟨h.1, h.2.1, h.2.2⟩, fun h => ⟨h.1, h.2, h.3⟩⟩

end ManagedObject

/-! ## Registries -/

namespace Registry

variable {templates : Registry} {r : Resource} {i : Instance} {image : String} {o : ManagedObject}

/-- All templates are well-formed and ask for nothing that the server decides. -/
def WellFormed (templates : Registry) : Prop :=
  ∀ r o, Table.get? templates.templates r = some o → o.Wish

theorem WellFormed.addAll (os : List ManagedObject) (h : templates.WellFormed)
    (hos : ∀ o ∈ os, o.Wish) : (os.foldl Registry.add templates).WellFormed := by
  induction os generalizing templates with
  | nil => exact h
  | cons o os ih =>
    refine ih (fun r o' ho' => ?_) fun o' ho' => hos o' (List.mem_cons_of_mem _ ho')
    unfold Registry.add at ho'
    rw [Table.get?_insert] at ho'
    split at ho'
    · obtain rfl := Option.some.inj ho'
      exact hos _ List.mem_cons_self
    · exact h r o' ho'

theorem own_wellFormed : own.WellFormed := by
  refine WellFormed.addAll _ (fun r o ho => by cases ho) ?_
  decide +kernel

/-- There is a template for everything that the components consist of. -/
theorem own_complete : ∀ r ∈ Component.chain.flatMap Component.resources,
    Table.contains own.templates r = true := by
  decide +kernel

theorem WellFormed.render (h : templates.WellFormed) (hi : i.spec.WellFormed)
    (hrender : templates.render i r image = .ok o) : o.Wish := by
  obtain ⟨t, ht, rfl⟩ := render_ok hrender
  exact (h r t ht).setDesired hi image

end Registry

end NodeFeatureOperator
