import NodeFeatureOperator.Proofs.Applying
import NodeFeatureOperator.Proofs.Decoding
import NodeFeatureOperator.Proofs.Ownership
import NodeFeatureOperator.Proofs.Pruning

/-!
# What prune jobs are granted

A prune job runs under an account of its own namespace. What the account may do is said by a role
and a binding, which belong to the whole cluster and go by one name for all instances. Whatever a
live binding says, once it has been applied for an instance it binds accounts of the namespace of
that instance (`Pass.goal_binds`). Applying all that is made for a prune job ends in one of two ways
(`Pass.applyAll_starts`): the job is created, with everything that it needs, or it is not, and the
binding is as it was.
-/

namespace NodeFeatureOperator

open Cluster StoreM

/-- The account under which a prune job runs. -/
def pruneAccount : Resource := ⟨.serviceAccount, "nfd-prune"⟩

/-- The role that says what prune jobs may do. -/
def pruneRole : Resource := ⟨.clusterRole, "nfd-prune"⟩

/-- The binding of accounts to the role of prune jobs. -/
def pruneBinding : Resource := ⟨.clusterRoleBinding, "nfd-prune"⟩

theorem pruneResources_eq :
    pruneResources = [pruneAccount, pruneRole, pruneBinding, pruneJob] := rfl

/-! ## Bindings -/

namespace Json

variable {ns : String} {l d j : Json}

/-- The document tells of something in a namespace. -/
def InNs (ns : String) (j : Json) : Prop := j.get? "namespace" = some (.str ns)

instance (ns : String) (j : Json) : Decidable (j.InNs ns) :=
  inferInstanceAs (Decidable (_ = some (Json.str ns)))

theorem InNs.of_covered (hd : d.InNs ns) (h : Covered l d = true) : l.InNs ns := by
  obtain ⟨ds, hds, hns⟩ := Option.bind_eq_some_iff.1 hd
  cases d with
  | obj ds' =>
    obtain rfl := Option.some.inj hds
    cases l with
    | obj ls =>
      obtain ⟨v, hv, hcovered⟩ := coveredFields_iff.1 h _ (Table.mem_of_get? hns)
      have heq : v = .str ns := of_decide_eq_true hcovered
      rwa [heq] at hv
    | _ => cases h
  | _ => cases hds

/-- What was laid over other items is about the namespace that the items are about. -/
theorem inNs_of_covered_arr {ds : List Json} (hds : ∀ d ∈ ds, d.InNs ns)
    (h : Covered l (.arr ds) = true) : ∃ ls, l = .arr ls ∧ ∀ x ∈ ls, x.InNs ns := by
  cases l with
  | arr ls =>
    rw [Covered] at h
    split at h
    · next hlen =>
      refine ⟨ls, rfl, fun x hx => ?_⟩
      obtain ⟨n, hn, rfl⟩ := List.mem_iff_getElem.1 hx
      have hn' : n < ds.length := hlen ▸ hn
      exact (hds _ (List.getElem_mem hn')).of_covered (getElem_of_coveredItems h hn hn')
    · cases h
  | _ => cases h

/-- To read a document as a subject leaves its namespace alone. -/
theorem InNs.normalize? (hj : j.InNs ns) {j' : Json} (h : Schema.subject.normalize? j = some j') :
    j'.InNs ns := by
  obtain ⟨fs, hfs, hns⟩ := Option.bind_eq_some_iff.1 hj
  cases j with
  | obj fs' =>
    obtain rfl := Option.some.inj hfs
    obtain ⟨out, hout, rfl⟩ := Option.map_eq_some_iff.1 h
    have hsorted : Table.Sorted Schema.subject.fields :=
      Table.sorted_iff_ascending.2 (by decide +kernel)
    have hfield := Schema.get?_of_normalizeFields? hsorted hout "namespace"
    rw [show Table.get? Schema.subject.fields "namespace" = some (.optional, .text) from rfl,
      hns] at hfield
    exact (Option.some.inj hfield).symm
  | _ => cases hfs

end Json

namespace ManagedObject

variable {o o' live wished : ManagedObject} {ns : String} {i : Instance}

/-- What a binding binds to its role. -/
def subjects (o : ManagedObject) : List Json :=
  ((Table.get? o.body "subjects").bind Json.asArray?).getD []

/-- All that the binding binds is in this namespace. -/
def Binds (o : ManagedObject) (ns : String) : Prop := ∀ s ∈ o.subjects, s.InNs ns

instance (o : ManagedObject) (ns : String) : Decidable (o.Binds ns) :=
  inferInstanceAs (Decidable (∀ s ∈ o.subjects, _))

theorem Binds.of_subjects (h : o.Binds ns)
    (heq : Table.get? o'.body "subjects" = Table.get? o.body "subjects") : o'.Binds ns := by
  unfold Binds subjects at *
  rwa [heq]

theorem Binds.of_toJson (h : o.Binds ns) (heq : o.toJson = o'.toJson) : o'.Binds ns := by
  have hhead : "subjects" ∉ Kind.headNames := by decide
  have hfields : o.fields = o'.fields := Json.obj.inj heq
  refine h.of_subjects ?_
  rw [← get?_fields hhead, ← get?_fields hhead, hfields]

/-- The body that is read from a document has under each name what the schema of the kind makes of
it. -/
theorem get?_body_of_decode? {kind : Kind} {fs : Json.Fields} (h : decode? kind (.obj fs) = some o)
    (name : String) :
    match Table.get? kind.body.fields name with
    | none => Table.get? o.body name = none
    | some (p, s) => Schema.field? p s (Table.get? fs name) = some (Table.get? o.body name) := by
  obtain ⟨names, -, h⟩ := Option.bind_eq_some_iff.1 h
  obtain ⟨m, -, h⟩ := Option.bind_eq_some_iff.1 h
  obtain ⟨body, hbody, h⟩ := Option.bind_eq_some_iff.1 h
  obtain rfl := Option.some.inj h
  obtain ⟨normal, hnormal, hbody⟩ := Option.bind_eq_some_iff.1 hbody
  rw [Kind.body_eq, Schema.normalize?] at hnormal
  obtain ⟨out, hout, rfl⟩ := Option.map_eq_some_iff.1 hnormal
  obtain rfl := Option.some.inj hbody
  exact Schema.get?_of_normalizeFields? kind.fields_sorted hout name

theorem binds_of_decode? {fs : Json.Fields} {ls : List Json}
    (h : decode? .clusterRoleBinding (.obj fs) = some o)
    (hfs : Table.get? fs "subjects" = some (.arr ls)) (hls : ∀ x ∈ ls, x.InNs ns) : o.Binds ns := by
  have hfield := get?_body_of_decode? h "subjects"
  rw [show Table.get? (Kind.body .clusterRoleBinding).fields "subjects"
    = some (.optional, .list .subject) from rfl, hfs] at hfield
  obtain ⟨v, hnormal, hv⟩ := Option.map_eq_some_iff.1 hfield
  rw [Schema.normalize?] at hnormal
  obtain ⟨ys, hys, rfl⟩ := Option.map_eq_some_iff.1 hnormal
  unfold Binds subjects
  rw [← hv]
  intro s hs
  obtain ⟨x, hx, hread⟩ := mem_of_mapM hys s hs
  exact (hls x hx).normalize? hread

/-- What is laid over a binding decides what it binds. -/
theorem laidOver_binds (hlive : live.kind = .clusterRoleBinding)
    (hkind : wished.kind = .clusterRoleBinding) (hsorted : wished.body.Sorted) {ds : List Json}
    (hsubjects : Table.get? wished.body "subjects" = some (.arr ds))
    (hordered : (Json.arr ds).ordered = true) (hds : ∀ d ∈ ds, d.InNs ns)
    (h : live.laidOver wished = .ok o) : o.Binds ns := by
  have hbase : liveBase live wished = .obj live.fields := by
    unfold liveBase
    rw [hkind]
    rfl
  unfold laidOver wanted at h
  rw [hbase, toJson_eq, Json.merge, hlive] at h
  generalize hwanted : (wished.mapMetadata fun m =>
    { m with resourceVersion := none, uid := none }).fields = fs at h
  have hfs : fs.Sorted := by
    rw [← hwanted]
    exact fields_sorted hsorted
  have hwished : Table.get? fs "subjects" = some (.arr ds) := by
    rw [← hwanted, get?_fields (by decide)]
    exact hsubjects
  -- What the live binding has under this name is covered by what is laid over it.
  obtain ⟨v, hv, hcovered⟩ : ∃ v, Table.get? (Json.mergeFields live.fields fs) "subjects" = some v ∧
      Json.Covered v (.arr ds) = true := by
    rw [Json.get?_mergeFields _ _ hfs.names_nodup, hwished]
    refine ⟨_, rfl, ?_⟩
    cases Table.get? live.fields "subjects" with
    | none => exact Json.covered_self hordered
    | some l => exact Json.covered_merge hordered l
  obtain ⟨ls, rfl, hls⟩ := Json.inNs_of_covered_arr hds hcovered
  split at h
  · next laid hdecode =>
    obtain rfl := Except.ok.inj h
    exact binds_of_decode? hdecode hv hls
  · cases h

theorem keepServerFields_body (o : ManagedObject) (h : live.kind ≠ .service) :
    (o.keepServerFields live).body = o.body := by
  unfold keepServerFields
  dsimp only
  split
  · exact absurd ‹_› h
  · rfl

/-- The owners that an object has once an instance controls it. -/
theorem own_owned (hscope : o.kind.clusterScoped = false) (h : o.own i = .ok o') :
    i.controllerReference?.isSome ∧ o'.metadata.ownedBy i.metadata.uid = true ∧
      ∀ uid, o'.metadata.ownedBy uid = true →
        uid = i.metadata.uid ∨ o.metadata.ownedBy uid = true := by
  rcases own_cases h with ⟨hscope', -⟩ | ⟨-, owner, howner, -, rfl⟩
  · cases hscope.symm.trans hscope'
  · have huid := uid_of_controllerReference? howner
    refine ⟨Option.isSome_iff_exists.2 ⟨owner, howner⟩, ?_, fun uid howned => ?_⟩
    · exact List.any_eq_true.2 ⟨owner, OwnerReference.mem_put .., by simp [huid]⟩
    · obtain ⟨ref, href, heq⟩ := List.any_eq_true.1 howned
      have heq : some ref.uid = uid := of_decide_eq_true heq
      rcases OwnerReference.eq_or_mem_of_mem_put href with rfl | href
      · exact Or.inl (heq.symm.trans huid.symm)
      · right
        unfold owners at href
        unfold Metadata.ownedBy
        cases hrefs : o.metadata.ownerReferences with
        | none => simp [hrefs] at href
        | some refs =>
          rw [hrefs] at href
          exact List.any_eq_true.2 ⟨ref, href, by simp [heq]⟩

end ManagedObject

/-! ## What is applied -/

namespace Pass

variable {p : Pass} {r : Resource} {c c' c₁ : Cluster} {o live : ManagedObject}

/-- What is stored once a resource was applied is what its object was to become, but for version and
uid; or it is what was stored before, and that was written like it. -/
theorem apply_stored (h : p.templates.Sound) (hkeyed : c.Keyed) {a : Applied}
    (hrun : p.apply r c = .ok a c') :
    ∃ o o', p.goal r (Table.get? c.objects (p.keyOf r)) = .ok o ∧
      Table.get? c'.objects (p.keyOf r) = some o' ∧
      ((∃ version uid, o' = o.marked version uid) ∨
        Table.get? c.objects (p.keyOf r) = some o' ∧ o.toJson = o'.toJson) := by
  unfold Pass.apply at hrun
  obtain ⟨d, c₁, hd, hrun⟩ := bind_ok.1 hrun
  obtain ⟨hrender, rfl⟩ := ofExcept_ok_iff.1 hd
  obtain ⟨t, ht, rfl⟩ := Registry.render_ok hrender
  have htemplate := h r t ht
  obtain ⟨found, c₂, hget, hrun⟩ := bind_ok.1 hrun
  obtain ⟨rfl, rfl⟩ := get_ok hget
  unfold goal
  rw [hrender]
  cases hfound : Table.get? c₁.objects (p.keyOf r) with
  | none =>
    rw [hfound] at hrun
    obtain ⟨o, c₃, hown, hrun⟩ := bind_ok.1 hrun
    obtain ⟨howned, rfl⟩ := ofExcept_ok_iff.1 hown
    obtain ⟨o', c₄, hcreate, hrun⟩ := bind_ok.1 hrun
    obtain ⟨hstored, c₅, uid, rfl⟩ := create_ok hcreate
    obtain ⟨c₆, hnotify, hobjects⟩ := notify_ok p.subject "Creating" (p.keyOf r) c₄
    rw [bind_of_ok hnotify] at hrun
    cases hrun
    rw [((htemplate.desired ..).own howned).key_eq] at hstored
    exact ⟨o, _, howned, by rw [hobjects]; exact hstored, Or.inl ⟨_, uid, rfl⟩⟩
  | some live =>
    rw [hfound] at hrun
    obtain ⟨o, c₃, hconverged, hrun⟩ := bind_ok.1 hrun
    obtain ⟨hgoal, rfl⟩ := ofExcept_ok_iff.1 hconverged
    split at hrun
    · next hsame =>
      cases hrun
      exact ⟨o, live, hgoal, hfound, Or.inr ⟨rfl, hsame⟩⟩
    · obtain ⟨o', c₄, hupdate, hrun⟩ := bind_ok.1 hrun
      obtain ⟨hstored, c₅, uid, rfl⟩ := update_ok hupdate
      obtain ⟨c₆, hnotify, hobjects⟩ := notify_ok p.subject "Updating" (p.keyOf r) c₄
      rw [bind_of_ok hnotify] at hrun
      cases hrun
      have hlive : live.kind = r.kind := hkeyed.kind_of_get? hfound
      rw [((htemplate.desired ..).converged (htemplate.desired_sorted ..) hlive hgoal).key_eq]
        at hstored
      exact ⟨o, _, hgoal, by rw [hobjects]; exact hstored, Or.inl ⟨_, uid, rfl⟩⟩

/-- What becomes of an object of a namespace is owned by the instance, and besides by those only who
own it already. -/
theorem goal_owned (h : p.templates.Sound) (hscope : r.kind.clusterScoped = false)
    {found : Option ManagedObject} (hfound : ∀ live, found = some live → live.kind = r.kind)
    (hgoal : p.goal r found = .ok o) :
    p.subject.controllerReference?.isSome ∧ o.metadata.ownedBy p.subject.metadata.uid = true ∧
      ∀ uid, o.metadata.ownedBy uid = true → uid = p.subject.metadata.uid ∨
        ∃ live, found = some live ∧ live.metadata.ownedBy uid = true := by
  unfold goal at hgoal
  split at hgoal
  · cases hgoal
  · next d hrender =>
    obtain ⟨t, ht, rfl⟩ := Registry.render_ok hrender
    have htemplate := h r t ht
    have hunowned := htemplate.desired_unowned p.subject p.image
    cases found with
    | none =>
      have hkind := (htemplate.desired p.subject p.image).kind
      obtain ⟨howner, howned, howners⟩ := ManagedObject.own_owned (hkind ▸ hscope) hgoal
      refine ⟨howner, howned, fun uid huid => Or.inl ((howners uid huid).resolve_right ?_)⟩
      unfold Metadata.ownedBy
      rw [hunowned]
      exact Bool.false_ne_true
    | some live =>
      obtain ⟨laid, owned, hlaid, hown, rfl⟩ := ManagedObject.converged_ok hgoal
      have hsorted := htemplate.desired_sorted p.subject p.image
      have hkind := (ManagedObject.laidOver_ok hsorted hlaid).1.trans (hfound live rfl)
      have howners := ManagedObject.laidOver_owners hsorted hunowned hlaid
      have hsame (uid : Option String) :
          laid.metadata.ownedBy uid = live.metadata.ownedBy uid := by
        unfold Metadata.ownedBy
        rw [howners]
      rw [ManagedObject.keepServerFields_metadata]
      obtain ⟨howner, howned, hall⟩ := ManagedObject.own_owned (hkind ▸ hscope) hown
      refine ⟨howner, howned, fun uid huid => (hall uid huid).imp_right fun hlive => ?_⟩
      exact ⟨live, rfl, (hsame uid).symm.trans hlive⟩

/-- What becomes of the binding binds the account in the namespace of the instance. -/
theorem goal_binds (h : p.templates.Sound) (hbinding : Table.get? p.templates.templates pruneBinding
      = some (Template.binding .clusterRoleBinding .clusterRole "nfd-prune"))
    {found : Option ManagedObject}
    (hfound : ∀ live, found = some live → live.kind = .clusterRoleBinding)
    (hgoal : p.goal pruneBinding found = .ok o) : o.Binds p.subject.ns := by
  have hsorted := (h _ _ hbinding).desired_sorted p.subject p.image
  have hrender : p.templates.render p.subject pruneBinding p.image = .ok _ :=
    Registry.render_of_get? hbinding
  generalize hd : (Template.binding .clusterRoleBinding .clusterRole "nfd-prune").setDesired
    p.subject p.image = d at hsorted hrender
  let account : Json := .obj [("kind", .str "ServiceAccount"), ("name", .str "nfd-prune"),
    ("namespace", .str p.subject.ns)]
  have hkind : d.kind = .clusterRoleBinding := hd ▸ rfl
  have hsubjects : Table.get? d.body "subjects" = some (.arr [account]) := hd ▸ rfl
  have hns : ∀ s ∈ [account], s.InNs p.subject.ns := List.forall_mem_singleton.2 rfl
  unfold goal at hgoal
  rw [hrender] at hgoal
  cases found with
  | none =>
    obtain rfl := Except.ok.inj
      ((ManagedObject.own_of_clusterScoped (by rw [hkind]; rfl)).symm.trans hgoal)
    unfold ManagedObject.Binds ManagedObject.subjects
    rw [hsubjects]
    exact hns
  | some live =>
    have hlive := hfound live rfl
    obtain ⟨laid, owned, hlaid, hown, rfl⟩ := ManagedObject.converged_ok hgoal
    have hlaidKind := (ManagedObject.laidOver_ok hsorted hlaid).1.trans hlive
    rw [ManagedObject.own_of_clusterScoped (by rw [hlaidKind]; rfl)] at hown
    obtain rfl := Except.ok.inj hown
    have hnames : ["kind", "name", "namespace"].Pairwise fun a b : String => compare a b = .lt := by
      decide
    have hordered : (Json.arr [account]).ordered = true := by
      refine Json.ordered_arr.2 (List.forall_mem_singleton.2 (Json.ordered_obj.2 ⟨?_, ?_⟩))
      · exact .of_sublist hnames (List.Sublist.refl _)
      · simp [Json.ordered]
    refine (ManagedObject.laidOver_binds hlive hkind hsorted hsubjects hordered hns
      hlaid).of_subjects ?_
    rw [ManagedObject.keepServerFields_body laid (by rw [hlive]; decide)]

end Pass

/-! ## Starting a prune job -/

/-- The registry has what it takes to start prune jobs. -/
structure Registry.Pruning (templates : Registry) : Prop where
  sound : templates.Sound
  complete : ∀ r ∈ pruneResources, Table.contains templates.templates r = true
  binding : Table.get? templates.templates pruneBinding
    = some (Template.binding .clusterRoleBinding .clusterRole "nfd-prune")

theorem Registry.own_pruning : own.Pruning where
  sound := own_sound
  complete := own_prune
  binding := by decide +kernel

namespace Cluster

variable {c c' : Cluster} {i : Instance}

/-- The prune job of the instance is there, and the instance owns it. All is there that the job
needs, and the binding is for the namespace of the instance. -/
structure Grants (i : Instance) (c : Cluster) : Prop where
  job : ∃ job, Table.get? c.objects (pruneJob.key i) = some job ∧
    job.metadata.ownedBy i.metadata.uid = true
  account : (Table.get? c.objects (pruneAccount.key i)).isSome
  role : (Table.get? c.objects (pruneRole.key i)).isSome
  binding : ∃ o, Table.get? c.objects (pruneBinding.key i) = some o ∧ o.Binds i.ns

theorem Aside.get?_key (h : Aside c c') {r : Resource} (hr : r ∈ pruneResources) (i : Instance) :
    Table.get? c'.objects (r.key i) = Table.get? c.objects (r.key i) :=
  h.get? (name_of_mem_pruneResources hr i)

theorem Grants.aside (h : c.Grants i) (hc : Aside c c') : c'.Grants i where
  job := by
    rw [hc.get?_key (by decide)]
    exact h.job
  account := by
    rw [hc.get?_key (by decide)]
    exact h.account
  role := by
    rw [hc.get?_key (by decide)]
    exact h.role
  binding := by
    rw [hc.get?_key (by decide)]
    exact h.binding

end Cluster

namespace Pass

variable {p : Pass} {c c' : Cluster}

theorem keyOf_ne {r s : Resource} (h : r.kind ≠ s.kind) : p.keyOf r ≠ p.keyOf s := fun heq =>
  h ((r.key_kind p.subject).symm.trans ((congrArg Key.kind heq).trans (s.key_kind p.subject)))

theorem owner_of_account (h : p.templates.Sound) (hkeyed : c.Keyed) {a : Applied}
    (hrun : p.apply pruneAccount c = .ok a c') : p.subject.controllerReference?.isSome := by
  obtain ⟨o, -, hgoal, -⟩ := apply_stored h hkeyed hrun
  exact (goal_owned h rfl (fun _ => hkeyed.kind_of_get?) hgoal).1

theorem binds_of_binding (h : p.templates.Pruning) (hkeyed : c.Keyed) {a : Applied}
    (hrun : p.apply pruneBinding c = .ok a c') :
    ∃ o, Table.get? c'.objects (p.keyOf pruneBinding) = some o ∧ o.Binds p.subject.ns := by
  obtain ⟨o, o', hgoal, hstored, hwritten⟩ := apply_stored h.sound hkeyed hrun
  have hbinds := goal_binds h.sound h.binding (fun _ => hkeyed.kind_of_get?) hgoal
  refine ⟨o', hstored, ?_⟩
  rcases hwritten with ⟨version, uid, rfl⟩ | ⟨-, hsame⟩
  · exact hbinds
  · exact hbinds.of_toJson hsame

/-- An instance that can own gets the job that it misses, and owns it. -/
theorem apply_job (h : p.templates.Pruning) (hclear : c.failures = []) (hkeyed : c.Keyed)
    (howner : p.subject.controllerReference?.isSome)
    (hmissing : Table.get? c.objects (p.keyOf pruneJob) = none) :
    ∃ c' job, p.apply pruneJob c = .ok .created c' ∧
      Table.get? c'.objects (p.keyOf pruneJob) = some job ∧
      job.metadata.ownedBy p.subject.metadata.uid = true := by
  obtain ⟨c', hrun, -⟩ := apply_of_clear hclear h.sound howner (h.complete pruneJob (by decide))
    hmissing
  obtain ⟨o, job, hgoal, hstored, hwritten⟩ := apply_stored h.sound hkeyed hrun
  refine ⟨c', job, hrun, hstored, ?_⟩
  rcases hwritten with ⟨version, uid, rfl⟩ | ⟨hfound, -⟩
  · exact (goal_owned h.sound rfl (fun _ => hkeyed.kind_of_get?) hgoal).2.1
  · cases hmissing.symm.trans hfound

/-- The ways in which it ends to start a prune job. -/
inductive Starts (p : Pass) (c c' : Cluster) : Prop
  /-- There is no job, and the binding is as it was. -/
  | stops (hjob : Table.get? c'.objects (p.keyOf pruneJob) = none)
      (hbinding : Table.get? c'.objects (p.keyOf pruneBinding)
        = Table.get? c.objects (p.keyOf pruneBinding))
  /-- There is a job that the instance owns, and all that it needs. -/
  | goes (hgrants : c'.Grants p.subject)

/-- Once the account is there, the instance can own. So nothing keeps the job from being created
after the binding, and what was applied in front of it stays. -/
theorem grants_of_applied (h : p.templates.Pruning) (hclear : c.failures = []) (hkeyed : c.Keyed)
    (hmissing : Table.get? c.objects (p.keyOf pruneJob) = none) {a a' a'' : Applied}
    {c₁ c₂ c₃ : Cluster} (haccount : p.apply pruneAccount c = .ok a c₁)
    (hrole : p.apply pruneRole c₁ = .ok a' c₂) (hbinding : p.apply pruneBinding c₂ = .ok a'' c₃) :
    ((p.applyAll [pruneJob] : StoreM Cluster Unit).after c₃).Grants p.subject := by
  have h₁ := (p.apply_touches h.sound _).of_ok haccount hkeyed
  have hkeyed₁ := h₁.keyed hkeyed
  have h₂ := (p.apply_touches h.sound _).of_ok hrole hkeyed₁
  have hkeyed₂ := h₂.keyed hkeyed₁
  have h₃ := (p.apply_touches h.sound _).of_ok hbinding hkeyed₂
  have hkeyed₃ := h₃.keyed hkeyed₂
  have hclear₃ : c₃.failures = [] := by rw [h₃.failures, h₂.failures, h₁.failures, hclear]
  have hmissing₃ : Table.get? c₃.objects (p.keyOf pruneJob) = none := by
    rw [h₃.objects _ (keyOf_ne (by decide)), h₂.objects _ (keyOf_ne (by decide)),
      h₁.objects _ (keyOf_ne (by decide)), hmissing]
  obtain ⟨c₄, job, hrun, hjob, howned⟩ := apply_job h hclear₃ hkeyed₃
    (owner_of_account h.sound hkeyed haccount) hmissing₃
  have h₄ := (p.apply_touches h.sound _).of_ok hrun hkeyed₃
  rw [show ((p.applyAll [pruneJob] : StoreM Cluster Unit).after c₃) = c₄ from
    after_ok (bind_of_ok hrun)]
  -- What was applied is still there, since what came after it was of other kinds.
  obtain ⟨-, account, -, haccount', -⟩ := apply_stored h.sound hkeyed haccount
  obtain ⟨-, role, -, hrole', -⟩ := apply_stored h.sound hkeyed₁ hrole
  obtain ⟨binding, hbinding', hbinds⟩ := binds_of_binding h hkeyed₂ hbinding
  refine ⟨⟨job, hjob, howned⟩, ?_, ?_, binding, ?_, hbinds⟩
  · refine Option.isSome_iff_exists.2 ⟨account, ?_⟩
    rw [← haccount', ← h₂.objects _ (keyOf_ne (by decide)), ← h₃.objects _ (keyOf_ne (by decide))]
    exact h₄.objects _ (keyOf_ne (by decide))
  · refine Option.isSome_iff_exists.2 ⟨role, ?_⟩
    rw [← hrole', ← h₃.objects _ (keyOf_ne (by decide))]
    exact h₄.objects _ (keyOf_ne (by decide))
  · rw [← hbinding']
    exact h₄.objects _ (keyOf_ne (by decide))

/-- There are no other ways, if no call is made to fail. -/
theorem applyAll_starts (h : p.templates.Pruning) (hclear : c.failures = []) (hkeyed : c.Keyed)
    (hmissing : Table.get? c.objects (p.keyOf pruneJob) = none) :
    p.Starts c ((p.applyAll pruneResources : StoreM Cluster Unit).after c) := by
  -- What is applied in front of the binding leaves the binding and the missing job alone.
  let K (k : Key) : Prop := k ≠ p.keyOf pruneBinding ∧ k ≠ p.keyOf pruneJob
  have hK (r : Resource) (hr : r.kind ≠ .clusterRoleBinding ∧ r.kind ≠ .job) (k : Key)
      (hk : k = p.keyOf r) : K k := by
    rw [hk]
    exact ⟨keyOf_ne hr.1, keyOf_ne hr.2⟩
  have hstops {r : Resource} {e : Error} {c₁ c₂ : Cluster} (hbefore : Within K c c₁)
      (hrun : p.apply r c₁ = .error e c₂) : p.Starts c c₂ := by
    have hobjects := (hbefore.trans (apply_failed hrun).toWithin).objects
    exact .stops ((hobjects _ fun hk => hk.2 rfl).trans hmissing) (hobjects _ fun hk => hk.1 rfl)
  rw [pruneResources_eq]
  refine after_bind (p.Starts c) (fun e _ => hstops (.refl c)) fun _ c₁ haccount => ?_
  have h₁ := (p.apply_touches h.sound _).of_ok haccount hkeyed
  have hbefore₁ : Within K c c₁ := h₁.mono (hK pruneAccount (by decide))
  refine after_bind (p.Starts c) (fun e _ => hstops hbefore₁) fun _ c₂ hrole => ?_
  have h₂ := (p.apply_touches h.sound _).of_ok hrole (h₁.keyed hkeyed)
  have hbefore₂ : Within K c c₂ := hbefore₁.trans (h₂.mono (hK pruneRole (by decide)))
  refine after_bind (p.Starts c) (fun e _ => hstops hbefore₂) fun _ c₃ hbinding => ?_
  exact .goes (grants_of_applied h hclear hkeyed hmissing haccount hrole hbinding)

theorem Starts.aside {c₀ c'' : Cluster} (h : p.Starts c c') (hbefore : Aside c₀ c)
    (hafter : Aside c' c'') : p.Starts c₀ c'' := by
  cases h with
  | stops hjob hbinding =>
    refine .stops ((hafter.get?_key (by decide) _).trans hjob) ?_
    exact (hafter.get?_key (by decide) _).trans (hbinding.trans (hbefore.get?_key (by decide) _))
  | goes hgrants => exact .goes (hgrants.aside hafter)

theorem applyAll_grows (h : p.templates.Sound) (rs : List Resource) (hkeyed : c.Keyed) :
    Grows c ((p.applyAll rs : StoreM Cluster Unit).after c) :=
  applyAll_keeps (fun r _ _ => apply_grows h r) hkeyed

end Pass

/-! ## Taking a prune job away -/

section

variable {K : Key → Prop} {c c' : Cluster}

/-- Where all is kept that was to be removed, everything is as it was. -/
theorem Cluster.Removed.of_kept (h : Removed K c c')
    (hkept : ∀ k, K k → (Table.get? c'.objects k).isSome) : Removed (fun _ => False) c c' where
  toWithin := { h.toWithin with
    objects := fun k _ => by
      by_cases hk : K k
      · obtain ⟨o, ho⟩ := Option.isSome_iff_exists.1 (hkept k hk)
        rw [ho, h.only k o ho]
      · exact h.objects k hk }
  only := h.only

/-- What is to be deleted first goes first. -/
theorem deleteAll_stopped {policy : RetryPolicy} {key : Key} {keys : List Key} {e : Error}
    (h : (deleteAll policy (key :: keys) : StoreM Cluster Unit) c = .error e c')
    (hkept : (Table.get? c'.objects key).isSome) : Removed (fun _ => False) c c' := by
  rcases bind_error.1 h with hfirst | ⟨_, c₁, hfirst, hrest⟩
  · refine ((deleteTries_removed policy key _).of_error hfirst).of_kept ?_
    rintro k rfl
    exact hkept
  · rw [((deleteAll_removed policy keys).of_error hrest).absent (deleteTries_ok hfirst)] at hkept
    cases hkept

end

/-! ## Visits -/

namespace Context

variable {ctx : Context} {c c' : Cluster} {i : Instance}

/-- What a visit to an instance that is to go and asks for pruning comes to for the prune jobs. -/
inductive Turn (ctx : Context) (i : Instance) (c c' : Cluster) : Prop
  /-- Nothing that is made for prune jobs is different. -/
  | rests (h : Aside c c')
  /-- The instance had no job, and the visit tried to start it. -/
  | tries (hmissing : Table.get? c.objects (pruneJob.key i) = none)
      (hserves : Serves (fun _ => True) c c')
      (hgrows : ∀ k, k.name = "nfd-prune" → (Table.get? c.objects k).isSome →
        (Table.get? c'.objects k).isSome)
      (hstarts : (ctx.pass i).Starts c c')
  /-- The job of the instance had succeeded, and is gone. -/
  | cleans (hpruned : (ctx.pass i).Pruned c)
      (hgone : Table.get? c'.objects (pruneJob.key i) = none)

theorem finalVisit_turn (h : ctx.templates.Pruning) (hclear : c.failures = []) (hkeyed : c.Keyed)
    (hon : i.spec.pruneOnDelete = true) :
    ctx.Turn i c ((ctx.finalVisit i : StoreM Cluster Action).after c) := by
  have hname : (pruneJob.key i).name = "nfd-prune" := pruneJob.key_name i
  cases ctx.finalVisit_prunes hon c with
  | leaves haside => exact .rests haside
  | starts hmissing hfound hrest =>
    rename_i c₁
    have hkeyed₁ := hfound.keyed hkeyed
    have hmissing₁ := (Aside.get? hfound.serves hname).trans hmissing
    have hstarts := Pass.applyAll_starts (p := ctx.pass i) h (hfound.failures.trans hclear) hkeyed₁
      hmissing₁
    have happlied := (ctx.pass i).applyAll_within pruneResources c₁
    refine .tries hmissing ?_ (fun k hk hstored => ?_) (hstarts.aside hfound.serves hrest)
    · exact (hfound.mono fun _ _ => trivial).serves.trans
        (happlied.serves.trans (hrest.mono fun _ _ => trivial))
    · rw [← Aside.get? hfound.serves hk] at hstored
      rw [hrest.get? hk]
      exact Pass.applyAll_grows (p := ctx.pass i) h.sound pruneResources hkeyed₁ k hstored
  | fails hpruned hfound hdelete hrest hfailed =>
    rename_i c₁ c₂ e
    by_cases hkept : (Table.get? c₂.objects (pruneJob.key i)).isSome
    · have hstopped := (deleteAll_stopped hdelete hkept).aloof.serves
      exact .rests (hfound.serves.trans (hstopped.trans hrest))
    · exact .cleans hpruned ((hrest.get? hname).trans (Option.not_isSome_iff_eq_none.1 hkept))
  | ends hpruned hfound hdelete hrest =>
    refine .cleans hpruned ?_
    rw [after_congr hrest]
    exact Pass.release_absent (deleteAll_ok hdelete _ (List.mem_cons_self ..))

end Context

end NodeFeatureOperator
