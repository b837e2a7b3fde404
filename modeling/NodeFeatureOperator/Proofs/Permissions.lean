import NodeFeatureOperator.Proofs.Granting
import NodeFeatureOperator.Proofs.Run

/-!
# Permissions of running prune jobs

Instances of different namespaces each have a prune job and an account of their own, but they share
a role and a binding. The account of a job is there as long as the job is. The role and the binding
are there as well, as long as no other instance cleans up after its own job, for that takes them
away for everybody (`CleansUp`); and the binding is for the account of the job, as long as no other
instance starts a job, for that makes the binding its own (`Claims`). All this holds of every run of
passes over instances that depart, in any order (`permissions_kept`). Where another instance starts
its job or cleans up, a running job loses its permissions (`permissions_lost`).
-/

namespace NodeFeatureOperator

open Cluster StoreM

variable {K : Key → Prop} {ctx : Context} {c c' : Cluster} {i j : Instance}
  {id : InstanceId} {ids : List InstanceId} {s : Step}

theorem Resource.key_ns {r : Resource} (h : r.kind.clusterScoped = false) (i : Instance) :
    (r.key i).ns = some i.ns := by
  unfold Resource.key Key.forInstance
  rw [h]
  rfl

/-! ## Owners of what is made for prune jobs -/

namespace Cluster

/-- No call is made to fail, and every object is stored once, under its own key. -/
structure Regular (c : Cluster) : Prop where
  clear : c.failures = []
  keyed : c.Keyed
  ordered : c.objects.Sorted

/-- A regular cluster stays regular, and what is made for prune jobs in a namespace has no owners
but those that it had, unless it is the namespace of the instance: there the instance may be one. -/
def Enlists (i : Instance) (c c' : Cluster) : Prop :=
  c.Regular → c'.Regular ∧ ∀ k o' uid, k.name = "nfd-prune" → k.kind.clusterScoped = false →
    Table.get? c'.objects k = some o' → o'.metadata.ownedBy uid = true →
    (uid = i.metadata.uid ∧ k.ns = some i.ns) ∨
      ∃ o, Table.get? c.objects k = some o ∧ o.metadata.ownedBy uid = true

instance : IsPreorder Cluster (Enlists i) where
  refl _ hc := ⟨hc, fun _ o _ _ _ ho howned => Or.inr ⟨o, ho, howned⟩⟩
  trans _ _ _ h h' hc := by
    obtain ⟨hc', howners⟩ := h hc
    obtain ⟨hc'', howners'⟩ := h' hc'
    refine ⟨hc'', fun k o uid hk hscope ho howned => ?_⟩
    rcases howners' k o uid hk hscope ho howned with hnew | ⟨o', ho', howned'⟩
    · exact Or.inl hnew
    · exact howners k o' uid hk hscope ho' howned'

theorem Aside.enlists (h : Aside c c') : Enlists i c c' := by
  refine fun hc => ⟨⟨h.failures.trans hc.clear, h.keyed hc.keyed, h.ordered hc.ordered⟩, ?_⟩
  intro k o uid hk _ ho howned
  exact Or.inr ⟨o, (h.get? hk).symm.trans ho, howned⟩

theorem Removed.enlists (h : Removed K c c') : Enlists i c c' := by
  refine fun hc => ⟨⟨h.failures.trans hc.clear, h.keyed hc.keyed, h.ordered hc.ordered⟩, ?_⟩
  exact fun k o _ _ _ ho howned => Or.inr ⟨o, h.only k o ho, howned⟩

theorem collect_regular (h : c.Regular) (id : InstanceId) : (c.collect id).Regular := by
  rcases collect_cases c id with heq | ⟨i, -, -, -, heq⟩
  · rwa [heq]
  · rw [heq]
    exact ⟨h.clear, fun row hrow => h.keyed row (List.mem_filter.1 hrow).1, h.ordered.filter _⟩

end Cluster

namespace Pass

variable {p : Pass}

/-- To apply a resource makes nobody an owner but the instance. -/
theorem apply_enlists (h : p.templates.Sound) (r : Resource) :
    Keeps (Enlists p.subject) (p.apply r : StoreM Cluster Applied) := by
  intro c hc
  cases hrun : (p.apply r : StoreM Cluster Applied) c with
  | error e c' =>
    rw [after_error hrun]
    exact (apply_failed (K := fun _ => False) hrun).enlists hc
  | ok a c' =>
    rw [after_ok hrun]
    have htouches := (p.apply_touches h r).of_ok hrun hc.keyed
    refine ⟨⟨htouches.failures.trans hc.clear, htouches.keyed hc.keyed,
      htouches.ordered hc.ordered⟩, fun k o' uid hk hscope ho howned => ?_⟩
    by_cases hkey : k = p.keyOf r
    · subst hkey
      rw [show (p.keyOf r).kind = r.kind from r.key_kind _] at hscope
      obtain ⟨o, stored, hgoal, hstored, hwritten⟩ := apply_stored h hc.keyed hrun
      obtain rfl := Option.some.inj (hstored.symm.trans ho)
      rcases hwritten with ⟨version, uid', rfl⟩ | ⟨hfound, -⟩
      · obtain ⟨-, -, howners⟩ := goal_owned h hscope (fun _ => hc.keyed.kind_of_get?) hgoal
        exact (howners uid howned).imp_left fun huid => ⟨huid, r.key_ns hscope _⟩
      · exact Or.inr ⟨stored, hfound, howned⟩
    · rw [htouches.objects k hkey] at ho
      exact Or.inr ⟨o', ho, howned⟩

theorem release_enlists (p : Pass) :
    Keeps (Enlists p.subject) (p.release : StoreM Cluster Action) := by
  intro c hc
  rcases p.release_cases c with ⟨a, c₁, hrun, hcalled⟩ | ⟨old, c₁, -, hcalled, hrun⟩
  · rw [after_ok hrun]
    exact hcalled.enlists hc
  · rw [after_ok hrun]
    obtain ⟨hc₁, howners⟩ := (hcalled.enlists (i := p.subject)) hc
    have hput : (c₁.putInstance p.subject.id (c₁.adopt old p.subject.removeFinalizer)).Regular :=
      ⟨hc₁.clear, hc₁.keyed, hc₁.ordered⟩
    refine ⟨collect_regular hput _, fun k o uid hk hscope ho howned => ?_⟩
    exact howners k o uid hk hscope (get?_object_of_collect hput.ordered ho) howned

end Pass

namespace Context

theorem finalVisit_enlists (h : ctx.templates.Sound) (hon : i.spec.pruneOnDelete = true)
    (c : Cluster) : Enlists i c ((ctx.finalVisit i : StoreM Cluster Action).after c) := by
  cases ctx.finalVisit_prunes hon c with
  | leaves haside => exact haside.enlists
  | starts hmissing hfound hrest =>
    refine trans_of _ (Aside.enlists hfound.serves) (trans_of _ ?_ hrest.enlists)
    exact fun hc => Pass.applyAll_keeps (R := Enlists i)
      (fun r _ c _ => Pass.apply_enlists (p := ctx.pass i) h r c) hc.keyed hc
  | fails hpruned hfound hdelete hrest =>
    refine trans_of _ (Aside.enlists hfound.serves) (trans_of _ ?_ hrest.enlists)
    exact ((deleteAll_removed _ _).of_error hdelete).enlists
  | ends hpruned hfound hdelete hrest =>
    rw [after_congr hrest]
    refine trans_of _ (Aside.enlists hfound.serves)
      (trans_of _ ((deleteAll_removed _ _).of_ok hdelete).enlists ?_)
    exact (ctx.pass i).release_enlists _

end Context

/-! ## Instances that depart side by side -/

/-- No two of the identities share a namespace. -/
def Scattered (ids : List InstanceId) : Prop := ∀ id ∈ ids, ∀ id' ∈ ids, id.ns = id'.ns → id = id'

instance (ids : List InstanceId) : Decidable (Scattered ids) :=
  inferInstanceAs (Decidable (∀ id ∈ ids, _))

/-- The steps of a run in which the operator makes passes over some instances, in any order, and
jobs report in between. -/
def Step.Among (ids : List InstanceId) : Step → Prop
  | .pass id => id ∈ ids
  | .setJobStatus .. => True
  | _ => False

namespace Cluster

/-- The instances under `ids`, as far as they are stored, are to go and ask for pruning. The account
of the prune job of one of them is not owned by another. -/
structure Departing (ids : List InstanceId) (c : Cluster) : Prop where
  regular : c.Regular
  departs : ∀ id ∈ ids, ∀ i, Table.get? c.instances id = some i → i.Departs id
  accounts : ∀ id ∈ ids, ∀ id' ∈ ids, ∀ i j o, Table.get? c.instances id = some i →
    Table.get? c.instances id' = some j →
    Table.get? c.objects (pruneAccount.key (.bare id)) = some o →
    o.metadata.ownedBy j.metadata.uid = true → j.metadata.uid = i.metadata.uid

/-- A report changes neither who owns an object nor what a binding binds. -/
theorem get?_setJobStatus (c : Cluster) (key : Key) (succeeded failed : Int) (k : Key) :
    ∃ g : ManagedObject → ManagedObject,
      Table.get? (c.setJobStatus key succeeded failed).objects k
        = (Table.get? c.objects k).map g ∧
      ∀ o, (g o).metadata = o.metadata ∧ ∀ ns, o.Binds ns → (g o).Binds ns := by
  refine ⟨_, (c.setJobStatus_rewritten key succeeded failed).get? k, fun o => ?_⟩
  unfold withJobStatus
  split
  · split
    · refine ⟨rfl, fun ns hbinds => hbinds.of_subjects ?_⟩
      exact (Table.get?_insert ..).trans (if_neg (by decide))
    · exact ⟨rfl, fun _ => id⟩
  · exact ⟨rfl, fun _ => id⟩

theorem isSome_setJobStatus (c : Cluster) (key : Key) (succeeded failed : Int) (k : Key) :
    (Table.get? (c.setJobStatus key succeeded failed).objects k).isSome
      = (Table.get? c.objects k).isSome := by
  rw [(c.setJobStatus_rewritten key succeeded failed).get?, Option.isSome_map]

theorem HasJob.of_setJobStatus {key : Key} {succeeded failed : Int}
    (h : (c.setJobStatus key succeeded failed).HasJob id) : c.HasJob id :=
  (c.isSome_setJobStatus key succeeded failed _).symm.trans h

end Cluster

namespace Context

/-- An instance that is stored after a visit was stored before. -/
theorem visit_instance_before (ctx : Context) (hi : Table.get? c.instances i.id = some i)
    (hj : Table.get? ((ctx.visit i.id : StoreM Cluster Action).after c).instances id = some j) :
    ∃ i', Table.get? c.instances id = some i' ∧ i'.Becomes j := by
  have hguards := ctx.visit_guards hi
  by_cases hid : id = i.id
  · subst hid
    exact ⟨i, hi, hguards.becomes j hj⟩
  · exact ⟨j, (hguards.others id hid).symm.trans hj, .of_essence rfl⟩

/-- A visit to one of the instances that depart does nothing, or is the visit of an instance that
holds the finalizer. -/
theorem visit_among (ctx : Context) (hc : c.Departing ids) (hid : id ∈ ids) :
    (ctx.visit id : StoreM Cluster Action).after c = c.record (.one .get id) ∨
      ∃ i, Table.get? c.instances id = some i ∧ i.Departs id ∧ i.hasFinalizer = true ∧
        ctx.visit id c = ctx.finalVisit i (c.record (.one .get id)) := by
  cases hi : Table.get? c.instances id with
  | none => exact Or.inl (after_ok (ctx.visit_of_missing hi))
  | some i =>
    have hdeparts := hc.departs id hid i hi
    obtain rfl := hdeparts.named
    cases hfinalizer : i.hasFinalizer with
    | false => exact Or.inl (after_ok (ctx.visit_of_unheld hi hdeparts.deleting hfinalizer))
    | true =>
      exact Or.inr ⟨i, rfl, hdeparts, hfinalizer,
        ctx.visit_of_deleting hi hdeparts.deleting hfinalizer⟩

theorem visit_departing (h : ctx.templates.Sound) (hns : Scattered ids) (hc : c.Departing ids)
    (hid : id ∈ ids) : ((ctx.visit id : StoreM Cluster Action).after c).Departing ids := by
  rcases ctx.visit_among hc hid with hread | ⟨i, hi, hdeparts, -, hvisit⟩
  · rw [hread]
    exact ⟨⟨hc.regular.clear, hc.regular.keyed, hc.regular.ordered⟩, hc.departs, hc.accounts⟩
  obtain rfl := hdeparts.named
  have hbefore {id' : InstanceId} {j : Instance}
      (hj : Table.get? ((ctx.visit i.id : StoreM Cluster Action).after c).instances id' = some j) :=
    ctx.visit_instance_before hi hj
  have henlists := trans_of (Enlists i) (removed_record (K := fun _ => False) c _).enlists
    (finalVisit_enlists h hdeparts.prunes (c.record (.one .get i.id)))
  rw [← after_congr hvisit] at henlists
  obtain ⟨hregular, howners⟩ := henlists hc.regular
  refine ⟨hregular, fun id' hid' j hj => ?_, fun id₁ hid₁ id₂ hid₂ j₁ j₂ o hj₁ hj₂ ho howned => ?_⟩
  · obtain ⟨j', hj', hbecomes⟩ := hbefore hj
    exact (hc.departs id' hid' j' hj').becomes hbecomes
  · obtain ⟨i₁, hi₁, hbecomes₁⟩ := hbefore hj₁
    obtain ⟨i₂, hi₂, hbecomes₂⟩ := hbefore hj₂
    rw [hbecomes₁.uid_eq, hbecomes₂.uid_eq]
    rw [hbecomes₂.uid_eq] at howned
    rcases howners _ o _ (pruneAccount.key_name _) (by rw [pruneAccount.key_kind]; rfl) ho howned
      with ⟨huid, hkey⟩ | ⟨o', ho', howned'⟩
    · -- The owner is new, so the account is that of the visited instance.
      rw [pruneAccount.key_ns rfl] at hkey
      have hsame : id₁ = i.id := hns id₁ hid₁ i.id hid (Option.some.inj hkey)
      subst hsame
      rw [huid, Option.some.inj (hi₁.symm.trans hi)]
    · exact hc.accounts id₁ hid₁ id₂ hid₂ i₁ i₂ o' hi₁ hi₂ ho' howned'

end Context

theorem onCluster_departing (h : ctx.templates.Sound) (hns : Scattered ids) (hc : c.Departing ids)
    (hs : s.Among ids) : (s.onCluster ctx c).Departing ids := by
  cases s with
  | pass id => exact Context.visit_departing h hns hc hs
  | setJobStatus key succeeded failed =>
    have hrewritten := c.setJobStatus_rewritten key succeeded failed
    refine ⟨⟨hc.regular.clear, hrewritten.keyed hc.regular.keyed,
      hrewritten.ordered hc.regular.ordered⟩, hc.departs,
      fun id hid id' hid' i j o hi hj ho howned => ?_⟩
    obtain ⟨g, hget, hg⟩ := c.get?_setJobStatus key succeeded failed (pruneAccount.key (.bare id))
    obtain ⟨o', ho', rfl⟩ := Option.map_eq_some_iff.1 (hget.symm.trans ho)
    exact hc.accounts id hid id' hid' i j o' hi hj ho' ((hg o').1 ▸ howned)
  | _ => exact hs.elim

/-! ## Jobs and their permissions -/

namespace Cluster

/-- The instance owns its prune job, and the account of the job is stored. -/
structure Backed (id : InstanceId) (c : Cluster) : Prop where
  job : ∃ i job, Table.get? c.instances id = some i ∧
    Table.get? c.objects (pruneJob.key (.bare id)) = some job ∧
    job.metadata.ownedBy i.metadata.uid = true
  account : (Table.get? c.objects (pruneAccount.key (.bare id))).isSome

/-- The role and the binding of prune jobs are stored. -/
def Entitles (id : InstanceId) (c : Cluster) : Prop :=
  (Table.get? c.objects (pruneRole.key (.bare id))).isSome ∧
    (Table.get? c.objects (pruneBinding.key (.bare id))).isSome

/-- The binding of prune jobs is stored and is for the namespace of the instance. -/
def Favours (id : InstanceId) (c : Cluster) : Prop :=
  ∃ o, Table.get? c.objects (pruneBinding.key (.bare id)) = some o ∧ o.Binds id.ns

end Cluster

/-- The step is a pass over another instance that finds that its own prune job has succeeded, while
the job of the instance is stored. -/
def CleansUp (id : InstanceId) (c : Cluster) : Step → Prop
  | .pass id' => id' ≠ id ∧ c.HasJob id ∧ c.Holds id' ∧
    ∃ job, Table.get? c.objects (pruneJob.key (.bare id')) = some job ∧
      1 ≤ job.statusCount "succeeded"
  | _ => False

/-- The step is a pass over another instance that creates its own prune job, while the job of the
instance is stored. -/
def Claims (ctx : Context) (id : InstanceId) (c : Cluster) : Step → Prop
  | .pass id' => id' ≠ id ∧ c.HasJob id ∧ ¬ c.HasJob id' ∧
    ((ctx.visit id' : StoreM Cluster Action).after c).HasJob id'
  | _ => False

namespace Context

/-- A visit to another instance leaves what is in the namespace as it is, or takes of it what the
other instance owns. -/
theorem visit_spares_others (h : ctx.templates.Sound) (hns : Scattered ids) (hc : c.Regular)
    (hid : id ∈ ids) (hid' : i.id ∈ ids) (hne : i.id ≠ id)
    (hi : Table.get? c.instances i.id = some i) :
    let c' := (ctx.visit i.id : StoreM Cluster Action).after c
    (∀ r : Resource, r.kind.clusterScoped = false →
      Table.get? c'.objects (r.key (.bare id)) = Table.get? c.objects (r.key (.bare id))) ∨
    ∀ r : Resource, r.kind.clusterScoped = false →
      Table.get? c'.objects (r.key (.bare id)) = (Table.get? c.objects (r.key (.bare id))).filter
        fun o => !o.metadata.ownedBy i.metadata.uid := by
  intro c'
  have houtside (r : Resource) (hr : r.kind.clusterScoped = false) :
      ¬ i.Footprint (r.key (.bare id)) := by
    intro hfootprint
    have hkey := r.key_ns hr (.bare id)
    rcases hfootprint.ns with hnone | hsome
    · cases hnone.symm.trans hkey
    · exact hne (hns _ hid' _ hid (Option.some.inj (hsome.symm.trans hkey)))
  have hobjects {k : Key} := visit_objects (k := k) h hc.keyed hc.ordered hi
  cases hstays : Table.contains c'.instances i.id with
  | true => exact Or.inl fun r hr => (hobjects (houtside r hr)).trans (if_pos hstays)
  | false =>
    refine Or.inr fun r hr => (hobjects (houtside r hr)).trans (if_neg ?_)
    rw [show Table.contains ((ctx.visit i.id : StoreM Cluster Action).after c).instances i.id
      = false from hstays]
    exact Bool.false_ne_true

theorem visit_turn (h : ctx.templates.Pruning) (hc : c.Regular) (hdeparts : i.Departs id)
    (hvisit : ctx.visit id c = ctx.finalVisit i (c.record (.one .get id))) :
    ctx.Turn i (c.record (.one .get id)) ((ctx.visit id : StoreM Cluster Action).after c) := by
  rw [after_congr hvisit]
  exact finalVisit_turn (c := c.record (.one .get id)) h hc.clear hc.keyed hdeparts.prunes

/-- What holds for the job of an instance goes on holding if it holds once the job is started, if it
is about nothing but what is made for prune jobs, and if the other instances leave it alone. -/
theorem visit_upholds (h : ctx.templates.Pruning) (hns : Scattered ids) (hc : c.Departing ids)
    {id' : InstanceId} (hid' : id' ∈ ids) (hid : id ∈ ids) {Q : Cluster → Prop}
    (haside : ∀ c c', Aside c c' → Q c → Q c')
    (hgrants : ∀ i j c, i.id = id → Table.get? c.instances id = some j → i.Becomes j →
      c.Grants i → Q c)
    (hothers : ∀ i, id' ≠ id → c.HasJob id → Table.get? c.instances id' = some i → i.id = id' →
      i.hasFinalizer = true →
      ctx.Turn i (c.record (.one .get id')) ((ctx.visit id' : StoreM Cluster Action).after c) →
      Q c → Q ((ctx.visit id' : StoreM Cluster Action).after c))
    (hQ : c.HasJob id → Q c) (hjob : ((ctx.visit id' : StoreM Cluster Action).after c).HasJob id) :
    Q ((ctx.visit id' : StoreM Cluster Action).after c) := by
  have hrecord : Aside c (c.record (.one .get id')) := aside_record c _
  rcases ctx.visit_among hc hid' with hread | ⟨i, hi, hdeparts, hheld, hvisit⟩
  · rw [hread] at hjob ⊢
    exact haside _ _ hrecord (hQ hjob)
  have hturn := visit_turn h hc.regular hdeparts hvisit
  obtain rfl := hdeparts.named
  by_cases hne : i.id = id
  · -- The visit is to the instance itself, so that the job is as it was, or was started just now.
    subst hne
    cases hturn with
    | rests hrests =>
      refine haside _ _ (trans_of _ hrecord hrests) (hQ ?_)
      unfold HasJob at hjob
      rwa [hrests.get?_key (by decide)] at hjob
    | tries hmissing hserves hgrows hstarts =>
      cases hstarts with
      | stops hnone =>
        unfold HasJob at hjob
        rw [show Table.get? _ (pruneJob.key (.bare i.id)) = none from hnone] at hjob
        cases hjob
      | goes hall =>
        obtain ⟨j, hj, hessence⟩ := hserves.instance_after hi
        exact hgrants i j _ rfl hj (.of_essence hessence) hall
    | cleans hpruned hgone =>
      unfold HasJob at hjob
      rw [show Table.get? _ (pruneJob.key (.bare i.id)) = none from hgone] at hjob
      cases hjob
  · -- The visit is to another instance, which never starts this job.
    have hbefore : c.HasJob id := by
      unfold HasJob at hjob ⊢
      rcases visit_spares_others h.sound hns hc.regular hid hid' hne hi with hsame | hfiltered
      · rwa [hsame pruneJob rfl] at hjob
      · rw [hfiltered pruneJob rfl] at hjob
        exact Option.isSome_of_isSome_filter _ _ hjob
    exact hothers i hne hbefore hi rfl hheld hturn (hQ hbefore)

end Context

theorem Cluster.Backed.aside (h : c.Backed id) (hc : Aside c c') : c'.Backed id := by
  obtain ⟨⟨i, job, hi, hjob, howned⟩, haccount⟩ := h
  obtain ⟨j, hj, hessence⟩ := hc.instance_after hi
  refine ⟨⟨j, job, hj, (hc.get?_key (by decide) _).trans hjob, ?_⟩, ?_⟩
  · rwa [(Instance.Becomes.of_essence hessence).uid_eq]
  · rwa [hc.get?_key (by decide)]

theorem Cluster.Entitles.aside (h : c.Entitles id) (hc : Aside c c') : c'.Entitles id := by
  unfold Entitles
  rwa [hc.get?_key (by decide), hc.get?_key (by decide)]

theorem Cluster.Favours.aside (h : c.Favours id) (hc : Aside c c') : c'.Favours id := by
  unfold Favours
  rwa [hc.get?_key (by decide)]

theorem cleansUp_of_pruned (hne : i.id ≠ id) (hjob : c.HasJob id)
    (hi : Table.get? c.instances i.id = some i) (hheld : i.hasFinalizer = true)
    (hpruned : (ctx.pass i).Pruned (c.record (.one .get i.id))) : CleansUp id c (.pass i.id) := by
  obtain ⟨job, hstored, -, hsucceeded⟩ := hpruned
  exact ⟨hne, hjob, ⟨i, hi, hheld⟩, job, hstored, hsucceeded⟩

namespace Context

/-- Visits leave the account of a job alone as long as the job is there. -/
theorem visit_backed (h : ctx.templates.Pruning) (hns : Scattered ids) (hc : c.Departing ids)
    {id' : InstanceId} (hid' : id' ∈ ids) (hid : id ∈ ids) (hbacked : c.HasJob id → c.Backed id)
    (hjob : ((ctx.visit id' : StoreM Cluster Action).after c).HasJob id) :
    ((ctx.visit id' : StoreM Cluster Action).after c).Backed id := by
  refine visit_upholds h hns hc hid' hid (fun _ _ hc hQ => hQ.aside hc)
    (fun i j c hi hj hbecomes hgrants => ?_) (fun i hne _ hi hnamed _ _ hQ => ?_) hbacked hjob
  · obtain ⟨job, hstored, howned⟩ := hgrants.job
    subst hi
    exact ⟨⟨j, job, hj, hstored, hbecomes.uid_eq ▸ howned⟩, hgrants.account⟩
  · subst hnamed
    obtain ⟨⟨i', job, hi', hstored, howned⟩, haccount⟩ := hQ
    have hothers := (ctx.visit_guards hi).others id (Ne.symm hne)
    rcases visit_spares_others h.sound hns hc.regular hid hid' hne hi with hsame | hfiltered
    · refine ⟨⟨i', job, hothers.trans hi', (hsame pruneJob rfl).trans hstored, howned⟩, ?_⟩
      rwa [hsame pruneAccount rfl]
    · unfold HasJob at hjob
      rw [hfiltered pruneJob rfl, hstored, Option.isSome_filter, Option.any_some] at hjob
      obtain ⟨account, ho⟩ := Option.isSome_iff_exists.1 haccount
      refine ⟨⟨i', job, hothers.trans hi', ?_, howned⟩, ?_⟩
      · rw [hfiltered pruneJob rfl, hstored, Option.filter_some, if_pos hjob]
      · rw [hfiltered pruneAccount rfl, ho, Option.isSome_filter, Option.any_some]
        -- Whoever owns the account owns the job, and then both had gone.
        cases haccountOwned : account.metadata.ownedBy i.metadata.uid with
        | false => rfl
        | true =>
          have huid := hc.accounts id hid i.id hid' i' i account hi' hi ho haccountOwned
          rw [huid, howned] at hjob
          cases hjob

/-- Only an instance that cleans up takes the role or the binding away from the job of another. -/
theorem visit_entitles (h : ctx.templates.Pruning) (hns : Scattered ids) (hc : c.Departing ids)
    {id' : InstanceId} (hid' : id' ∈ ids) (hid : id ∈ ids)
    (hclean : ¬ CleansUp id c (.pass id')) (hentitled : c.HasJob id → c.Entitles id)
    (hjob : ((ctx.visit id' : StoreM Cluster Action).after c).HasJob id) :
    ((ctx.visit id' : StoreM Cluster Action).after c).Entitles id := by
  refine visit_upholds h hns hc hid' hid (fun _ _ hc hQ => hQ.aside hc)
    (fun i _ c hi _ _ hgrants => ?_) (fun i hne hbefore hi hnamed hheld hturn hQ => ?_) hentitled
    hjob
  · obtain ⟨o, ho, -⟩ := hgrants.binding
    subst hi
    exact ⟨hgrants.role, Option.isSome_iff_exists.2 ⟨o, ho⟩⟩
  · subst hnamed
    cases hturn with
    | rests haside =>
      exact (hQ.aside (aside_record c _)).aside haside
    | tries hmissing hserves hgrows hstarts =>
      exact ⟨hgrows _ (pruneRole.key_name _) hQ.1, hgrows _ (pruneBinding.key_name _) hQ.2⟩
    | cleans hpruned hgone => exact absurd (cleansUp_of_pruned hne hbefore hi hheld hpruned) hclean

/-- Only an instance that cleans up or starts its own job turns the binding away from the job of
another. -/
theorem visit_favours (h : ctx.templates.Pruning) (hns : Scattered ids) (hc : c.Departing ids)
    {id' : InstanceId} (hid' : id' ∈ ids) (hid : id ∈ ids)
    (hclean : ¬ CleansUp id c (.pass id')) (hclaims : ¬ Claims ctx id c (.pass id'))
    (hfavoured : c.HasJob id → c.Favours id)
    (hjob : ((ctx.visit id' : StoreM Cluster Action).after c).HasJob id) :
    ((ctx.visit id' : StoreM Cluster Action).after c).Favours id := by
  refine visit_upholds h hns hc hid' hid (fun _ _ hc hQ => hQ.aside hc)
    (fun i _ c hi _ _ hgrants => ?_) (fun i hne hbefore hi hnamed hheld hturn hQ => ?_) hfavoured
    hjob
  · subst hi
    exact hgrants.binding
  · subst hnamed
    cases hturn with
    | rests haside =>
      exact (hQ.aside (aside_record c _)).aside haside
    | tries hmissing hserves hgrows hstarts =>
      cases hstarts with
      | stops hnone hbinding =>
        have hsame : Table.get? ((ctx.visit i.id : StoreM Cluster Action).after c).objects
            (pruneBinding.key (.bare id)) = Table.get? c.objects (pruneBinding.key (.bare id)) := by
          rw [pruneBinding.key_of_clusterScoped rfl (.bare id) i]
          exact hbinding
        unfold Favours
        rwa [hsame]
      | goes hgrants =>
        obtain ⟨job, hstored, -⟩ := hgrants.job
        refine absurd ⟨hne, hbefore, ?_, Option.isSome_iff_exists.2 ⟨job, hstored⟩⟩ hclaims
        unfold HasJob
        rw [show Table.get? c.objects (pruneJob.key (.bare i.id)) = none from hmissing]
        exact Bool.false_ne_true
    | cleans hpruned hgone => exact absurd (cleansUp_of_pruned hne hbefore hi hheld hpruned) hclean

end Context

/-! ## Runs -/

section

variable (h : ctx.templates.Pruning) (hns : Scattered ids) (hc : c.Departing ids) (hid : id ∈ ids)
  (hs : s.Among ids)

include h hns hc hid hs

theorem onCluster_backed (hbacked : c.HasJob id → c.Backed id)
    (hjob : (s.onCluster ctx c).HasJob id) : (s.onCluster ctx c).Backed id := by
  cases s with
  | pass id' => exact Context.visit_backed h hns hc hs hid hbacked hjob
  | setJobStatus key succeeded failed =>
    obtain ⟨⟨i, job, hi, hstored, howned⟩, haccount⟩ := hbacked hjob.of_setJobStatus
    obtain ⟨g, hget, hg⟩ := c.get?_setJobStatus key succeeded failed (pruneJob.key (.bare id))
    refine ⟨⟨i, g job, hi, hget.trans (congrArg (Option.map g) hstored), ?_⟩, ?_⟩
    · exact (hg job).1 ▸ howned
    · exact (c.isSome_setJobStatus key succeeded failed _).trans haccount
  | _ => exact hs.elim

theorem onCluster_entitles (hclean : ¬ CleansUp id c s) (hentitled : c.HasJob id → c.Entitles id)
    (hjob : (s.onCluster ctx c).HasJob id) : (s.onCluster ctx c).Entitles id := by
  cases s with
  | pass id' => exact Context.visit_entitles h hns hc hs hid hclean hentitled hjob
  | setJobStatus key succeeded failed =>
    have hstored := c.isSome_setJobStatus key succeeded failed
    obtain ⟨hrole, hbinding⟩ := hentitled hjob.of_setJobStatus
    exact ⟨(hstored _).trans hrole, (hstored _).trans hbinding⟩
  | _ => exact hs.elim

theorem onCluster_favours (hclean : ¬ CleansUp id c s) (hclaims : ¬ Claims ctx id c s)
    (hfavoured : c.HasJob id → c.Favours id) (hjob : (s.onCluster ctx c).HasJob id) :
    (s.onCluster ctx c).Favours id := by
  cases s with
  | pass id' => exact Context.visit_favours h hns hc hs hid hclean hclaims hfavoured hjob
  | setJobStatus key succeeded failed =>
    obtain ⟨o, ho, hbinds⟩ := hfavoured hjob.of_setJobStatus
    obtain ⟨g, hget, hg⟩ := c.get?_setJobStatus key succeeded failed (pruneBinding.key (.bare id))
    exact ⟨g o, hget.trans (congrArg (Option.map g) ho), (hg o).2 _ hbinds⟩
  | _ => exact hs.elim

end

/-- Permissions of prune jobs, in every run of passes over instances of different namespaces that
are to go and ask for pruning, taken in any order while jobs report and no call fails. From a moment
on when the job of an instance is not stored, whenever it is stored, a pass has created it, and its
account is stored as well. As long as no pass over another instance cleans up while the job is
stored, so are the role and the binding. And as long as besides no pass over another instance starts
its own job while the job is stored, the binding is for the namespace of the instance. -/
theorem permissions_kept (settings : Settings) (op : Operator Cluster) (ids : List InstanceId)
    (hns : Scattered ids) (hop : op.store.Departing ids)
    (before after : List Step) (hbefore : ∀ s ∈ before, s.Among ids)
    (hafter : ∀ s ∈ after, s.Among ids) (id : InstanceId) (hid : id ∈ ids)
    (hmissing : ¬ (run { settings } op before).store.HasJob id) :
    let ctx : Context := { settings }
    let op' := run ctx op before
    Always ctx (fun c => c.HasJob id →
      (Table.get? c.objects (pruneAccount.key (.bare id))).isSome) op' after ∧
    (Each ctx (fun c s => ¬ CleansUp id c s) op' after →
      Always ctx (fun c => c.HasJob id → c.Entitles id) op' after ∧
      (Each ctx (fun c s => ¬ Claims ctx id c s) op' after →
        Always ctx (fun c => c.HasJob id → c.Favours id) op' after)) := by
  intro ctx op'
  have hpruning : ctx.templates.Pruning := Registry.own_pruning
  have hdeparting : op'.store.Departing ids :=
    run_each (I := Departing ids) (fun c s hc hs => onCluster_departing hpruning.sound hns hc hs)
      hop (each_of_forall hbefore)
  have hamong : Each ctx (fun _ s => s.Among ids) op' after := each_of_forall hafter
  -- Each part is an invariant that is trivial as long as the job is missing.
  refine ⟨?_, fun hclean => ⟨?_, fun hclaims => ?_⟩⟩
  · exact always_of_each (I := fun c => c.Departing ids ∧ (c.HasJob id → c.Backed id))
      (fun c s hc hs => ⟨onCluster_departing hpruning.sound hns hc.1 hs,
        onCluster_backed hpruning hns hc.1 hid hs hc.2⟩)
      (fun c hc hjob => (hc.2 hjob).account) ⟨hdeparting, fun hjob => absurd hjob hmissing⟩ hamong
  · exact always_of_each (I := fun c => c.Departing ids ∧ (c.HasJob id → c.Entitles id))
      (fun c s hc hs => ⟨onCluster_departing hpruning.sound hns hc.1 hs.1,
        onCluster_entitles hpruning hns hc.1 hid hs.1 hs.2 hc.2⟩)
      (fun c hc => hc.2) ⟨hdeparting, fun hjob => absurd hjob hmissing⟩ (hamong.and hclean)
  · exact always_of_each (I := fun c => c.Departing ids ∧ (c.HasJob id → c.Favours id))
      (fun c s hc hs => ⟨onCluster_departing hpruning.sound hns hc.1 hs.1,
        onCluster_favours hpruning hns hc.1 hid hs.1 hs.2.1 hs.2.2 hc.2⟩)
      (fun c hc => hc.2) ⟨hdeparting, fun hjob => absurd hjob hmissing⟩
      (hamong.and (hclean.and hclaims))

theorem not_cleansUp_of_unsucceeded {id' : InstanceId}
    (h : ((Table.get? c.objects (pruneJob.key (.bare id'))).all fun job =>
      job.statusCount "succeeded" < 1) = true) : ¬ CleansUp id c (.pass id') := by
  rintro ⟨-, -, -, job, hjob, hsucceeded⟩
  rw [hjob, Option.all_some, decide_eq_true_eq] at h
  omega

/-- The job of one instance is started, then that of the other, and then the first one fails, which
leaves the other job its permissions. -/
theorem permissions_kept_of_failed :
    let i (ns : String) : Instance :=
      ({ Instance.bare ⟨ns, "nfd"⟩ with spec := { pruneOnDelete := true } } : Instance).addFinalizer
    let a := i "a"
    let b := i "b"
    let ctx : Context := { settings := {} }
    let found := run ctx { store := {} } [.insertInstance a, .markDeleting a.id,
      .insertInstance b, .markDeleting b.id]
    let op := run ctx found [.pass b.id]
    let steps : List Step := [.pass a.id, .setJobStatus (pruneJob.key b) 0 1, .pass b.id]
    Always ctx (fun c => c.HasJob a.id →
        (Table.get? c.objects (pruneAccount.key (.bare a.id))).isSome) op steps ∧
      Always ctx (fun c => c.HasJob a.id → c.Entitles a.id) op steps ∧
      Always ctx (fun c => c.HasJob a.id → c.Favours a.id) op steps := by
  intro i a b ctx found op steps
  have hempty : found.store.objects = [] := by decide +kernel
  have hdeparts : ∀ id ∈ [a.id, b.id], ∀ j, Table.get? found.store.instances id = some j →
      j.Departs id := by
    refine List.forall_mem_cons.2 ⟨?_, List.forall_mem_singleton.2 ?_⟩
    all_goals exact Instance.Departs.of_all (by decide +kernel)
  have hdeparting : found.store.Departing [a.id, b.id] := by
    refine ⟨⟨by decide +kernel, ?_, ?_⟩, hdeparts, ?_⟩
    · intro row hrow
      rw [hempty] at hrow
      cases hrow
    · rw [hempty]
      exact .nil
    · intro _ _ _ _ _ _ o _ _ ho
      rw [hempty] at ho
      cases ho
  have hmissing : ¬ op.store.HasJob a.id := by
    unfold HasJob
    decide +kernel
  have hfailed : ¬ CleansUp a.id (run ctx op [steps[0], steps[1]]).store (.pass b.id) :=
    not_cleansUp_of_unsucceeded (by decide +kernel)
  have hstarted : (run ctx op [steps[0], steps[1]]).store.HasJob b.id := by
    unfold HasJob
    decide +kernel
  have hkept := permissions_kept {} found [a.id, b.id] (by decide +kernel) hdeparting [.pass b.id]
    steps (by simp [Step.Among]) (by simp [steps, Step.Among]) a.id List.mem_cons_self hmissing
  have hclean : Each ctx (fun c s => ¬ CleansUp a.id c s) op steps :=
    ⟨fun h => h.1 rfl, id, hfailed, trivial⟩
  have hclaims : Each ctx (fun c s => ¬ Claims ctx a.id c s) op steps :=
    ⟨fun h => h.1 rfl, id, fun h => h.2.2.1 hstarted, trivial⟩
  exact ⟨hkept.1, (hkept.2 hclean).1, (hkept.2 hclean).2 hclaims⟩

/-- Two instances are to go. The first one starts its job, and then the second one, which makes the
binding its own. The job of the second one succeeds, and the pass that cleans up after it leaves
the job of the first one without role and binding, while that has not reported yet. -/
theorem permissions_lost :
    let i (ns : String) : Instance :=
      ({ Instance.bare ⟨ns, "nfd"⟩ with spec := { pruneOnDelete := true } } : Instance).addFinalizer
    let ctx : Context := { settings := {} }
    let found := run ctx { store := {} } [.insertInstance (i "a"), .markDeleting (i "a").id,
      .insertInstance (i "b"), .markDeleting (i "b").id]
    let claimed := run ctx found [.pass (i "a").id, .pass (i "b").id]
    let cleaned := run ctx claimed [.setJobStatus (pruneJob.key (i "b")) 1 0, .pass (i "b").id]
    let runs (c : Cluster) : Bool := (Table.get? c.objects (pruneJob.key (i "a"))).any fun job =>
      job.statusCount "succeeded" = 0 && job.statusCount "failed" = 0
    found.store.objects = [] ∧
      runs claimed.store = true ∧
      (Table.get? claimed.store.objects (pruneBinding.key (i "a"))).map (·.subjects)
        = some [.obj [("kind", .str "ServiceAccount"), ("name", .str "nfd-prune"),
          ("namespace", .str "b")]] ∧
      runs cleaned.store = true ∧
      Table.get? cleaned.store.objects (pruneRole.key (i "a")) = none ∧
      Table.get? cleaned.store.objects (pruneBinding.key (i "a")) = none := by
  decide +kernel

end NodeFeatureOperator
