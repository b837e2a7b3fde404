import NodeFeatureOperator.Proofs.Identity
import NodeFeatureOperator.Proofs.WellFormed

/-!
# Objects laid over one another

What a live object becomes when a desired one is laid over it, as an object
(`ManagedObject.overlay`) and no longer as a document. For well-formed objects the two agree
(`ManagedObject.laidOver_eq`), so laying over always succeeds, and doing it again changes nothing.
An object that neither laying over nor taking control of changes is settled
(`ManagedObject.Settled`): it is what convergence leads to, and there it stops.
-/

namespace NodeFeatureOperator

/-! ## Metadata -/

namespace Metadata

variable {live wanted : Metadata} {l w : Option (Table String String)} {t : Table String String}

/-- Labels with other labels laid over them. -/
def overlayLabels (live : Option (Table String String)) :
    Option (Table String String) → Option (Table String String)
  | none => live
  | some wanted =>
    (Json.merge (live.elim .null .ofStringTable) (.ofStringTable wanted)).asStringTable?

/-- Metadata with the labels, the name and the place of others laid over theirs. -/
def overlay (live wanted : Metadata) : Metadata :=
  live.revise (overlayLabels live.labels wanted.labels) (wanted.name.or live.name)
    (wanted.ns.or live.ns) live.ownerReferences live.resourceVersion live.uid

/-- The metadata say nothing but what an object is called, where it is, and how it is labelled. -/
def Plain (m : Metadata) : Prop :=
  m = ({} : Metadata).revise m.labels m.name m.ns none none none

instance (m : Metadata) : Decidable m.Plain := inferInstanceAs (Decidable (_ = _))

theorem overlayLabels_some (hl : ∀ t, l = some t → Table.Sorted t) (ht : Table.Sorted t) :
    ∃ t', overlayLabels l (some t) = some t' ∧ Table.Sorted t' ∧
      Json.ofStringTable t' = Json.merge (l.elim .null .ofStringTable) (.ofStringTable t) := by
  have hwanted : Schema.textTable.Normal (.ofStringTable t) :=
    Schema.normal_textTable.2 ⟨t, rfl, ht⟩
  have hmerged : Schema.textTable.Normal
      (Json.merge (l.elim .null .ofStringTable) (.ofStringTable t)) := by
    cases l with
    | none =>
      rw [Option.elim_none, Json.merge_null]
      exact hwanted
    | some t' =>
      exact Schema.Normal.merge rfl (Schema.normal_textTable.2 ⟨t', rfl, hl t' rfl⟩) hwanted
  obtain ⟨t', heq, ht'⟩ := Schema.normal_textTable.1 hmerged
  refine ⟨t', ?_, ht', heq.symm⟩
  rw [overlayLabels, heq, Json.asStringTable?_ofStringTable]

theorem overlayLabels_sorted (hl : ∀ t, l = some t → Table.Sorted t)
    (hw : ∀ t, w = some t → Table.Sorted t) (t : Table String String)
    (ht : overlayLabels l w = some t) : Table.Sorted t := by
  cases w with
  | none => exact hl t ht
  | some t' =>
    obtain ⟨t'', heq, hsorted, -⟩ := overlayLabels_some hl (hw t' rfl)
    obtain rfl := Option.some.inj (heq.symm.trans ht)
    exact hsorted

theorem overlayLabels_idem (hl : ∀ t, l = some t → Table.Sorted t)
    (hw : ∀ t, w = some t → Table.Sorted t) :
    overlayLabels (overlayLabels l w) w = overlayLabels l w := by
  cases w with
  | none => rfl
  | some t =>
    obtain ⟨t', heq, hsorted, hjson⟩ := overlayLabels_some hl (hw t rfl)
    have hordered {t : Table String String} (ht : Table.Sorted t) :
        (Json.ofStringTable t).ordered = true :=
      (Schema.normal_textTable.2 ⟨t, rfl, ht⟩ : Schema.textTable.Normal _).ordered
    rw [heq, overlayLabels, Option.elim_some, Json.merge_of_covered (hordered hsorted)
      (hordered (hw t rfl)), Json.asStringTable?_ofStringTable]
    rw [hjson]
    exact Json.covered_merge (hordered (hw t rfl)) _

theorem WellFormed.overlay (hlive : live.WellFormed) (hwanted : wanted.WellFormed) :
    (live.overlay wanted).WellFormed :=
  hlive.revise (overlayLabels_sorted hlive.labels_sorted hwanted.labels_sorted)

theorem overlay_idem (hlive : live.WellFormed) (hwanted : wanted.WellFormed) :
    (live.overlay wanted).overlay wanted = live.overlay wanted := by
  have hlabels := overlayLabels_idem hlive.labels_sorted hwanted.labels_sorted
  have hor (a b : Option String) : a.or (a.or b) = a.or b := by cases a <;> rfl
  unfold overlay revise
  simp only [hlabels, hor]

theorem overlay_self (hwanted : wanted.WellFormed) : wanted.overlay wanted = wanted := by
  have hlabels : overlayLabels wanted.labels wanted.labels = wanted.labels := by
    cases hl : wanted.labels with
    | none => rfl
    | some t =>
      have hordered : (Json.ofStringTable t).ordered = true :=
        (Schema.normal_textTable.2 ⟨t, rfl, hwanted.labels_sorted t hl⟩ :
          Schema.textTable.Normal _).ordered
      rw [overlayLabels, Option.elim_some, Json.merge_self hordered,
        Json.asStringTable?_ofStringTable]
  have hor (a : Option String) : a.or a = a := by cases a <;> rfl
  unfold overlay
  simp only [hlabels, hor, revise]

/-- What a merge makes of the documents of labels. -/
theorem map_overlayLabels (hl : ∀ t, l = some t → Table.Sorted t)
    (hw : ∀ t, w = some t → Table.Sorted t) :
    (match w.map Json.ofStringTable with
      | none => l.map .ofStringTable
      | some d => some ((l.map .ofStringTable).elim d (Json.merge · d)))
      = (overlayLabels l w).map .ofStringTable := by
  cases w with
  | none => rfl
  | some t =>
    obtain ⟨t', heq, -, hjson⟩ := overlayLabels_some hl (hw t rfl)
    rw [heq, Option.map_some, Option.map_some, hjson]
    cases l with
    | none => exact congrArg some (Json.merge_null _).symm
    | some t => rfl

/-- Plain metadata have nothing under the other names. -/
theorem Plain.get?_eq_none (h : wanted.Plain) {k : String}
    (hk : k ∉ ["labels", "name", "namespace"]) : Table.get? wanted.toFields k = none := by
  rw [h]
  exact get?_relabel (m := {}) hk

/-- The document of the overlay is what a merge of the documents comes to. -/
theorem mergeFields_toFields (hlive : live.WellFormed) (hwanted : wanted.WellFormed)
    (hplain : wanted.Plain) :
    Json.mergeFields live.toFields wanted.toFields = (live.overlay wanted).toFields := by
  refine (Json.mergeFields_sorted live.toFields_sorted _).ext (toFields_sorted _) fun k => ?_
  have htext (a b : Option String) :
      (match a.map Json.str with
        | none => b.map Json.str
        | some d => some ((b.map Json.str).elim d (Json.merge · d))) = (a.or b).map Json.str := by
    cases a <;> cases b <;> rfl
  rw [Json.get?_mergeFields _ _ wanted.toFields_sorted.names_nodup]
  by_cases hk : k ∈ ["labels", "name", "namespace"]
  · obtain ⟨ll, ln, lns, -⟩ := get?_toFields_revised live
    obtain ⟨wl, wn, wns, -⟩ := get?_toFields_revised wanted
    obtain ⟨ol, on, ons, -⟩ := get?_toFields_revised (live.overlay wanted)
    simp only [List.mem_cons, List.not_mem_nil, or_false] at hk
    rcases hk with rfl | rfl | rfl
    · rw [ll, wl, ol]
      exact map_overlayLabels hlive.labels_sorted hwanted.labels_sorted
    · rw [ln, wn, on]
      exact htext wanted.name live.name
    · rw [lns, wns, ons]
      exact htext wanted.ns live.ns
  · rw [hplain.get?_eq_none hk]
    exact (get?_relabel hk).symm

end Metadata

/-! ## What the server decides -/

namespace Json

variable {j d : Json} {ds : Fields} {name : String}

/-- To put back what is there changes nothing. -/
theorem setOrErase_eq_self (hj : j.ordered = true) : j.setOrErase name (j.get? name) = j := by
  cases j with
  | obj fs =>
    have hsorted := (ordered_obj.1 hj).1
    change (Json.obj fs).setOrErase name (Table.get? fs name) = _
    cases hv : Table.get? fs name with
    | none => exact congrArg Json.obj (Table.erase_eq_self hv)
    | some v => exact congrArg Json.obj (hsorted.insert_eq_self hv)
  | _ => rfl

/-- What an object does not mention stays as it is when it is laid over another. -/
theorem get?_merge_of_absent (hds : ds.Sorted) (h : Table.get? ds name = none) (l : Json) :
    (merge l (.obj ds)).get? name = l.get? name := by
  cases l with
  | obj ls =>
    change Table.get? (mergeFields ls ds) name = _
    rw [get?_mergeFields _ _ hds.names_nodup, h]
    rfl
  | _ => exact h

end Json

/-! ## Owners -/

namespace OwnerReference

variable {owner : OwnerReference} {refs : List OwnerReference}

theorem mem_put (owner : OwnerReference) (refs : List OwnerReference) : owner ∈ put owner refs := by
  induction refs with
  | nil => exact List.mem_cons_self
  | cons r refs ih =>
    rw [put]
    split
    · exact List.mem_cons_self
    · exact List.mem_cons_of_mem _ ih

theorem put_put (owner : OwnerReference) (refs : List OwnerReference) :
    put owner (put owner refs) = put owner refs := by
  induction refs with
  | nil => simp [put]
  | cons r refs ih =>
    by_cases h : r.uid = owner.uid
    · simp [put, h]
    · simp only [put, h, if_false, ih]

theorem eq_or_mem_of_mem_put {r : OwnerReference} (h : r ∈ put owner refs) :
    r = owner ∨ r ∈ refs := by
  induction refs with
  | nil => exact Or.inl (List.mem_singleton.1 h)
  | cons r' refs ih =>
    rw [put] at h
    split at h
    · exact (List.mem_cons.1 h).imp_right (List.mem_cons_of_mem _)
    · rcases List.mem_cons.1 h with rfl | h
      · exact Or.inr List.mem_cons_self
      · exact (ih h).imp_right (List.mem_cons_of_mem _)

/-- The owner itself is nobody else's controller. -/
theorem mem_of_mem_put {r : OwnerReference} (h : r ∈ put owner refs)
    (hforeign : r.isForeignController owner.uid = true) : r ∈ refs := by
  refine (eq_or_mem_of_mem_put h).resolve_left ?_
  rintro rfl
  unfold isForeignController at hforeign
  simp at hforeign

end OwnerReference

namespace ManagedObject

variable {o o' live desired : ManagedObject} {i : Instance} {version uid : Option String}

/-- The object with other owners. -/
def withOwners (o : ManagedObject) (refs : List OwnerReference) : ManagedObject :=
  o.mapMetadata fun m => { m with ownerReferences := some refs }

/-- The owners of an object. -/
def owners (o : ManagedObject) : List OwnerReference := o.metadata.ownerReferences.getD []

/-- An instance controls under its own uid. -/
theorem uid_of_controllerReference? {owner : OwnerReference}
    (h : i.controllerReference? = some owner) : i.metadata.uid = some owner.uid := by
  unfold Instance.controllerReference? at h
  obtain ⟨name, -, h⟩ := Option.bind_eq_some_iff.1 h
  obtain ⟨uid, huid, h⟩ := Option.bind_eq_some_iff.1 h
  rw [← Option.some.inj h, huid]

theorem own_of_owner {owner : OwnerReference} (hscope : o.kind.clusterScoped = false)
    (howner : i.controllerReference? = some owner) :
    o.own i =
      match o.owners.find? (·.isForeignController owner.uid) with
      | some other =>
        .error (.ownerReference o.key ("already controlled by " ++ other.kind ++ " " ++ other.name))
      | none => .ok (o.withOwners (owner.put o.owners)) := by
  unfold own
  rw [if_neg (by simp [hscope]), howner]
  rfl

/-- What it takes to get control of an object, and what comes of it. -/
theorem own_cases (h : o.own i = .ok o') :
    (o.kind.clusterScoped = true ∧ o' = o) ∨
    (o.kind.clusterScoped = false ∧ ∃ owner, i.controllerReference? = some owner ∧
      (∀ r ∈ o.owners, r.isForeignController owner.uid = false) ∧
      o' = o.withOwners (owner.put o.owners)) := by
  cases hscope : o.kind.clusterScoped with
  | true =>
    rw [own_of_clusterScoped hscope] at h
    exact Or.inl ⟨rfl, (Except.ok.inj h).symm⟩
  | false =>
    cases howner : i.controllerReference? with
    | none =>
      unfold own at h
      rw [if_neg (by simp [hscope]), howner] at h
      cases h
    | some owner =>
      rw [own_of_owner hscope howner] at h
      split at h
      · cases h
      · next hfind =>
        refine Or.inr ⟨rfl, owner, rfl, fun r hr => ?_, (Except.ok.inj h).symm⟩
        exact Bool.eq_false_iff.2 (List.find?_eq_none.1 hfind r hr)

theorem own_kind (h : o.own i = .ok o') : o'.kind = o.kind := by
  rcases own_cases h with ⟨-, rfl⟩ | ⟨-, owner, -, -, rfl⟩
  · rfl
  · rfl

/-- To take control a second time changes nothing. -/
theorem own_of_own (h : o.own i = .ok o') : o'.own i = .ok o' := by
  rcases own_cases h with ⟨hscope, rfl⟩ | ⟨hscope, owner, howner, hnone, rfl⟩
  · exact h
  · have hfind : (o.withOwners (owner.put o.owners)).owners.find?
        (·.isForeignController owner.uid) = none := by
      refine List.find?_eq_none.2 fun r hr hforeign => ?_
      rw [hnone r (OwnerReference.mem_of_mem_put hr hforeign)] at hforeign
      cases hforeign
    rw [own_of_owner (o := o.withOwners (owner.put o.owners)) hscope howner, hfind]
    change Except.ok (o.withOwners (owner.put (owner.put o.owners))) = _
    rw [OwnerReference.put_put]

/-! ## Laying over -/

/-- The body of a live object before another is laid over it. -/
def base (live desired : ManagedObject) : Json.Fields :=
  match desired.kind, Table.get? desired.body "data" with
  | .configMap, some data => Table.insert live.body "data" data
  | _, _ => live.body

/-- A live object with a desired one laid over it. -/
def overlay (live desired : ManagedObject) : ManagedObject :=
  ⟨live.kind, desired.names, live.metadata.overlay desired.metadata,
    Json.mergeFields (live.base desired) desired.body⟩

/-- A well-formed object that asks for nothing that the server decides. -/
structure Wish (d : ManagedObject) : Prop where
  wellFormed : d.WellFormed
  plain : d.metadata.Plain
  noAddress : d.kind = .service → ∀ name ∈ ["clusterIP", "clusterIPs"], d.at? ["spec", name] = none

theorem base_cases (live desired : ManagedObject) :
    (∃ data, desired.kind = .configMap ∧ Table.get? desired.body "data" = some data ∧
      live.base desired = Table.insert live.body "data" data) ∨
    ((desired.kind = .configMap → Table.get? desired.body "data" = none) ∧
      live.base desired = live.body) := by
  unfold base
  split
  · next data hkind hdata => exact Or.inl ⟨data, hkind, hdata, rfl⟩
  · next hnone =>
    refine Or.inr ⟨fun hkind => ?_, rfl⟩
    cases hdata : Table.get? desired.body "data" with
    | none => rfl
    | some data => exact absurd hdata (hnone data hkind)

variable {d : ManagedObject}

theorem fields_insert (h : Table.Sorted o.body) {name : String} (hname : name ∉ Kind.headNames)
    (v : Json) :
    ({ o with body := Table.insert o.body name v } : ManagedObject).fields
      = Table.insert o.fields name v := by
  refine (fields_sorted (o := { o with body := Table.insert o.body name v })
    (h.insert name v)).ext ((fields_sorted h).insert name v) fun k => ?_
  simp only [Kind.headNames, List.mem_cons, List.not_mem_nil, or_false, not_or] at hname
  obtain ⟨h₁, h₂, h₃⟩ := hname
  unfold fields
  simp only [Table.get?_insert]
  by_cases hk : name = k
  · subst hk
    simp only [Ne.symm h₁, Ne.symm h₂, Ne.symm h₃, if_true, if_false]
  · simp only [hk, if_false]

/-- The document that another is laid over is that of the live object with the base as its body. -/
theorem liveBase_eq (hlive : Table.Sorted live.body) (d : ManagedObject) :
    liveBase live d = .obj ({ live with body := live.base d } : ManagedObject).fields := by
  have hdata : d.toJson.get? "data" = Table.get? d.body "data" :=
    get?_fields (o := d) (by decide)
  unfold liveBase
  rcases base_cases live d with ⟨data, hkind, hbody, hbase⟩ | ⟨hnone, hbase⟩
  · rw [hdata, hkind, hbody, hbase, fields_insert hlive (by decide)]
    rfl
  · rw [hdata, hbase]
    split
    · next hkind hbody => cases (hnone hkind).symm.trans hbody
    · rfl

theorem WellFormed.based (hlive : live.WellFormed) (hd : d.WellFormed)
    (hkind : d.kind = live.kind) :
    ({ live with body := live.base d } : ManagedObject).WellFormed := by
  refine ⟨hlive.names, hlive.metadata, ?_⟩
  rcases base_cases live d with ⟨data, -, hdata, hbase⟩ | ⟨-, hbase⟩
  · have hbody := hlive.body
    rw [hbase]
    rw [Kind.body_normal_iff] at hbody ⊢
    refine ⟨hbody.1.insert "data" data, fun name => ?_⟩
    rw [Table.get?_insert]
    split
    · next hname =>
      subst hname
      have hfield := (Kind.body_normal_iff.1 hd.body).2 "data"
      rwa [hdata, hkind] at hfield
    · exact hbody.2 name
  · rw [hbase]
    exact hlive.body

theorem WellFormed.overlay (hlive : live.WellFormed) (hd : d.WellFormed)
    (hkind : d.kind = live.kind) : (live.overlay d).WellFormed := by
  refine ⟨?_, hlive.metadata.overlay hd.metadata, ?_⟩
  · have hnames := hd.names
    rwa [hkind] at hnames
  · have hbody := hd.body
    rw [hkind] at hbody
    exact Schema.Normal.merge live.kind.body_ordered (hlive.based hd hkind).body hbody

theorem Wish.wanted_eq (hd : d.Wish) : d.wanted = .obj d.fields := by
  have hself : { d.metadata with resourceVersion := none, uid := none } = d.metadata := by
    rw [hd.plain]
    simp only [Metadata.revise]
  exact congrArg (fun m => toJson ⟨d.kind, d.names, m, d.body⟩) hself

/-- The document of the overlay is what a merge of the documents comes to. -/
theorem mergeFields_fields (hlive : live.WellFormed) (hd : d.Wish) (hkind : d.kind = live.kind) :
    Json.mergeFields ({ live with body := live.base d } : ManagedObject).fields d.fields
      = (live.overlay d).fields := by
  have hbased := fields_sorted (hlive.based hd.wellFormed hkind).sorted
  have hoverlay := fields_sorted (hlive.overlay hd.wellFormed hkind).sorted
  have hnodup := (fields_sorted hd.wellFormed.sorted).names_nodup
  obtain ⟨lversion, lkind, lmetadata⟩ :=
    get?_fields_head ({ live with body := live.base d } : ManagedObject)
  obtain ⟨dversion, dkind, dmetadata⟩ := d.get?_fields_head
  obtain ⟨oversion, okind, ometadata⟩ := (live.overlay d).get?_fields_head
  refine (Json.mergeFields_sorted hbased _).ext hoverlay fun name => ?_
  by_cases hname : name ∈ Kind.headNames
  · simp only [Kind.headNames, List.mem_cons, List.not_mem_nil, or_false] at hname
    rcases hname with rfl | rfl | rfl
    · rw [Json.get?_mergeFields_of_both hnodup lversion dversion, oversion]
      rfl
    · rw [Json.get?_mergeFields_of_both hnodup lkind dkind, okind]
      rfl
    · rw [Json.get?_mergeFields_of_both hnodup lmetadata dmetadata, ometadata]
      exact congrArg (some ∘ Json.obj)
        (Metadata.mergeFields_toFields hlive.metadata hd.wellFormed.metadata hd.plain)
  · rw [Json.get?_mergeFields _ _ hnodup, get?_fields hname, get?_fields hname, get?_fields hname]
    exact (Json.get?_mergeFields _ _ hd.wellFormed.sorted.names_nodup name).symm

/-- To lay a desired object over a live one always succeeds. -/
theorem laidOver_eq (hlive : live.WellFormed) (hd : d.Wish) (hkind : d.kind = live.kind) :
    live.laidOver d = .ok (live.overlay d) := by
  have hmerged : Json.merge (liveBase live d) d.wanted = (live.overlay d).toJson := by
    rw [liveBase_eq hlive.sorted, hd.wanted_eq, Json.merge, mergeFields_fields hlive hd hkind]
    rfl
  have hread : decode? live.kind (live.overlay d).toJson = some (live.overlay d) :=
    (hlive.overlay hd.wellFormed hkind).decode?_toJson
  unfold laidOver
  rw [hmerged, hread]

/-- The document of an object with another laid over it is the merge of a document of the one and
of that of the other. -/
theorem toJson_overlay (hlive : live.WellFormed) (hd : d.Wish) (hkind : d.kind = live.kind) :
    (live.overlay d).toJson
      = Json.merge (.obj ({ live with body := live.base d } : ManagedObject).fields) d.toJson := by
  rw [toJson_eq, toJson_eq, Json.merge, mergeFields_fields hlive hd hkind]

/-- An object with another laid over it holds what the other asks for. -/
theorem covered_overlay (hlive : live.WellFormed) (hd : d.Wish) (hkind : d.kind = live.kind) :
    Json.Covered (live.overlay d).toJson d.toJson = true := by
  rw [toJson_overlay hlive hd hkind]
  exact Json.covered_merge hd.wellFormed.toJson_ordered _

/-! ## Laying over again -/

/-- The files of a configuration are those of the desired object. -/
theorem get?_data_overlay (hd : d.WellFormed) (hkind : d.kind = .configMap) {data : Json}
    (hdata : Table.get? d.body "data" = some data) (live : ManagedObject) :
    Table.get? (live.overlay d).body "data" = some data := by
  rcases base_cases live d with ⟨data', -, hdata', hbase⟩ | ⟨hnone, -⟩
  · obtain rfl := Option.some.inj (hdata.symm.trans hdata')
    unfold overlay
    rw [hbase,
      Json.get?_mergeFields_of_both hd.sorted.names_nodup (Table.get?_insert_self ..) hdata,
      Json.merge_self (Json.ordered_of_get? hd.body.ordered hdata)]
  · cases (hnone hkind).symm.trans hdata

theorem base_overlay (hlive : live.WellFormed) (hd : d.WellFormed) (hkind : d.kind = live.kind) :
    (live.overlay d).base d = (live.overlay d).body := by
  rcases base_cases (live.overlay d) d with ⟨data, hconfig, hdata, hbase⟩ | ⟨-, hbase⟩
  · rw [hbase]
    exact (hlive.overlay hd hkind).sorted.insert_eq_self (get?_data_overlay hd hconfig hdata live)
  · exact hbase

theorem overlay_overlay (hlive : live.WellFormed) (hd : d.WellFormed) (hkind : d.kind = live.kind) :
    (live.overlay d).overlay d = live.overlay d := by
  have hbody : Json.mergeFields (live.overlay d).body d.body = (live.overlay d).body :=
    Json.obj.inj (Json.merge_merge (hlive.based hd hkind).body.ordered hd.body.ordered)
  rw [overlay, base_overlay hlive hd hkind, hbody]
  exact congrArg (ManagedObject.mk live.kind d.names · (live.overlay d).body)
    (Metadata.overlay_idem hlive.metadata hd.metadata)

theorem overlay_self (hd : d.WellFormed) : d.overlay d = d := by
  have hbase : d.base d = d.body := by
    rcases base_cases d d with ⟨data, -, hdata, hbase⟩ | ⟨-, hbase⟩
    · rw [hbase, hd.sorted.insert_eq_self hdata]
    · exact hbase
  have hbody : Json.mergeFields d.body d.body = d.body :=
    Json.obj.inj (Json.merge_self hd.body.ordered)
  rw [overlay, hbase, hbody, Metadata.overlay_self hd.metadata]

/-- The object with a version and a uid. -/
def marked (o : ManagedObject) (version uid : Option String) : ManagedObject :=
  o.mapMetadata fun m => { m with resourceVersion := version, uid }

theorem overlay_withOwners (o d : ManagedObject) (refs : List OwnerReference) :
    (o.withOwners refs).overlay d = (o.overlay d).withOwners refs := rfl

theorem overlay_marked (o d : ManagedObject) (version uid : Option String) :
    (o.marked version uid).overlay d = (o.overlay d).marked version uid := rfl

theorem own_marked (h : o.own i = .ok o') (version uid : Option String) :
    (o.marked version uid).own i = .ok (o'.marked version uid) := by
  rcases own_cases h with ⟨hscope, rfl⟩ | ⟨hscope, owner, howner, hnone, rfl⟩
  · exact own_of_clusterScoped (o := o'.marked version uid) hscope
  · rw [own_of_owner (o := o.marked version uid) hscope howner]
    have hfind : o.owners.find? (·.isForeignController owner.uid) = none :=
      List.find?_eq_none.2 fun r hr => by simp [hnone r hr]
    change (match o.owners.find? (·.isForeignController owner.uid) with
      | some other => _
      | none => _) = _
    rw [hfind]
    rfl

/-! ## Convergence -/

/-- The addresses of a live service are still there when a desired object is laid over it. -/
theorem get?_spec_overlay (hd : d.Wish) (hservice : d.kind = .service) {spec spec' : Json}
    (hlive : Table.get? live.body "spec" = some spec)
    (hspec : Table.get? (live.overlay d).body "spec" = some spec') {name : String}
    (hname : name ∈ ["clusterIP", "clusterIPs"]) : spec'.get? name = spec.get? name := by
  have hbase : live.base d = live.body := by
    rcases base_cases live d with ⟨_, hconfig, -⟩ | ⟨-, hbase⟩
    · cases hservice.symm.trans hconfig
    · exact hbase
  unfold overlay at hspec
  rw [hbase, Json.get?_mergeFields _ _ hd.wellFormed.sorted.names_nodup, hlive] at hspec
  cases hwanted : Table.get? d.body "spec" with
  | none =>
    rw [hwanted] at hspec
    rw [Option.some.inj hspec]
  | some wanted =>
    rw [hwanted] at hspec
    obtain rfl := Option.some.inj hspec
    have hfield := (Kind.body_normal_iff.1 hd.wellFormed.body).2 "spec"
    have hschema : Table.get? (Kind.body .service).fields "spec"
        = some (.optional, Schema.serviceSpec) := by
      simp [Kind.body, Schema.serviceBody, Schema.fields, Schema.opt, Table.get?_cons]
    rw [hservice, hschema, hwanted] at hfield
    have habsent := hd.noAddress hservice name hname
    unfold at? at habsent
    cases wanted with
    | obj ds =>
      have hds : Table.get? ds name = none := by
        simpa [Json.at?, Json.get?, Json.asObject?, hwanted] using habsent
      exact Json.get?_merge_of_absent (Json.ordered_obj.1 hfield.1.ordered).1 hds spec
    | _ => cases hfield.1.fixed

/-- What the server decides is in place already. -/
theorem keepServerFields_eq (hlive : live.WellFormed) (hd : d.Wish) (hkind : d.kind = live.kind)
    (ho : o.kind = live.kind) (hbody : o.body = (live.overlay d).body)
    (hversion : o.metadata.resourceVersion = live.metadata.resourceVersion) :
    o.keepServerFields live = o := by
  have hself : (o.mapMetadata fun m => { m with resourceVersion := live.metadata.resourceVersion })
      = o := by
    rw [← hversion]
    rfl
  have hoverlay := hlive.overlay hd.wellFormed hkind
  unfold keepServerFields
  dsimp only
  rw [hself]
  split
  · next spec hservice _ hspec =>
    have hfound : Table.get? live.body "spec" = some spec := by
      simpa [at?, Json.at?, Json.get?, Json.asObject?] using hspec
    have hmodify (f : Json → Json)
        (hf : ∀ v, Table.get? (live.overlay d).body "spec" = some v → f v = v) :
        o.modifyAt ["spec"] f = o := by
      have hsame : Table.modify o.body "spec" f = o.body := by
        rw [hbody]
        exact hoverlay.sorted.modify_eq_self hf
      change ({ o with body := Table.modify o.body "spec" f } : ManagedObject) = o
      rw [hsame]
    refine hmodify _ fun v hv => ?_
    have haddress {name : String} (hname : name ∈ ["clusterIP", "clusterIPs"]) :
        v.setOrErase name (spec.get? name) = v := by
      rw [← get?_spec_overlay hd (hkind.trans (ho.symm.trans hservice)) hfound hv hname]
      exact Json.setOrErase_eq_self (Json.ordered_of_get? hoverlay.body.ordered hv)
    rw [haddress (by simp), haddress (by simp)]
  · rfl

/-- What a live object is to be replaced by: the desired one laid over it, under its owner. -/
theorem converged_eq (hlive : live.WellFormed) (hd : d.Wish) (hkind : d.kind = live.kind)
    (i : Instance) : live.converged d i = (live.overlay d).own i := by
  unfold converged
  rw [laidOver_eq hlive hd hkind]
  change (do let o ← (live.overlay d).own i; return o.keepServerFields live) = _
  cases howned : (live.overlay d).own i with
  | error e => rfl
  | ok o =>
    have hkept : o.keepServerFields live = o := by
      rcases own_cases howned with ⟨-, rfl⟩ | ⟨-, owner, -, -, rfl⟩
      · exact keepServerFields_eq hlive hd hkind rfl rfl rfl
      · exact keepServerFields_eq hlive hd hkind rfl rfl rfl
    exact congrArg Except.ok hkept

/-- The object is what convergence makes of it: neither laying over nor taking control changes
it. -/
structure Settled (o d : ManagedObject) (i : Instance) : Prop where
  holds : o.overlay d = o
  owned : o.own i = .ok o

theorem Settled.converged (h : o.Settled d i) (ho : o.WellFormed) (hd : d.Wish)
    (hkind : d.kind = o.kind) : o.converged d i = .ok o := by
  rw [converged_eq ho hd hkind, h.holds, h.owned]

theorem Settled.covered (h : o.Settled d i) (ho : o.WellFormed) (hd : d.Wish)
    (hkind : d.kind = o.kind) : Json.Covered o.toJson d.toJson = true := by
  have hcovered := covered_overlay ho hd hkind
  rwa [h.holds] at hcovered

theorem Settled.get?_data (h : o.Settled d i) (hd : d.WellFormed) (hkind : d.kind = .configMap)
    {data : Json} (hdata : Table.get? d.body "data" = some data) :
    Table.get? o.body "data" = some data := by
  have hkept := get?_data_overlay hd hkind hdata o
  rwa [h.holds] at hkept

/-- The instance controls the object, and nobody else does. -/
theorem Settled.controlled (h : o.Settled d i) (hscope : o.kind.clusterScoped = false) :
    ∃ owner, i.controllerReference? = some owner ∧ owner ∈ o.owners ∧
      ∀ r ∈ o.owners, r.controller = some true → r.uid = owner.uid := by
  rcases own_cases h.owned with ⟨hscope', -⟩ | ⟨-, owner, howner, hnone, heq⟩
  · cases hscope.symm.trans hscope'
  · refine ⟨owner, howner, ?_, fun r hr hcontroller => ?_⟩
    · rw [heq]
      exact OwnerReference.mem_put owner o.owners
    · have hforeign := hnone r hr
      unfold OwnerReference.isForeignController at hforeign
      simpa [hcontroller] using hforeign

theorem Settled.marked (h : o.Settled d i) (version uid : Option String) :
    (o.marked version uid).Settled d i :=
  ⟨by rw [overlay_marked, h.holds], own_marked h.owned version uid⟩

/-- To take control of an object does not keep it from holding what was laid over it. -/
theorem Settled.of_own (holds : o.overlay d = o) (h : o.own i = .ok o') : o'.Settled d i := by
  refine ⟨?_, own_of_own h⟩
  rcases own_cases h with ⟨-, rfl⟩ | ⟨-, owner, -, -, rfl⟩
  · exact holds
  · rw [overlay_withOwners, holds]

/-- What becomes of a live object that a desired one is laid over is settled. -/
theorem settled_of_overlay (hlive : live.WellFormed) (hd : d.Wish) (hkind : d.kind = live.kind)
    (h : (live.overlay d).own i = .ok o) : o.Settled d i :=
  .of_own (overlay_overlay hlive hd.wellFormed hkind) h

/-- What is created for a desired object is settled. -/
theorem settled_of_wish (hd : d.Wish) (h : d.own i = .ok o) : o.Settled d i :=
  .of_own (overlay_self hd.wellFormed) h

theorem WellFormed.own (ho : o.WellFormed) (h : o.own i = .ok o') : o'.WellFormed := by
  rcases own_cases h with ⟨-, rfl⟩ | ⟨-, owner, -, -, rfl⟩
  · exact ho
  · exact ho.revise ho.metadata.labels_sorted

theorem WellFormed.marked (ho : o.WellFormed) (version uid : Option String) :
    (o.marked version uid).WellFormed :=
  ho.revise ho.metadata.labels_sorted

end ManagedObject

end NodeFeatureOperator
