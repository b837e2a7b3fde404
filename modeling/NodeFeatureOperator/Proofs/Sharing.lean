import NodeFeatureOperator.Proofs.Run

/-!
# Objects that instances share

The objects of the whole cluster serve all instances. A pass over an instance that is to go leaves
them alone while an instance of another namespace is to stay, and a pass that lets the instance go
leaves none of them behind when there is no such instance (`Context.reconcile_sharing`).
-/

namespace NodeFeatureOperator

open Cluster StoreM

variable {c c' : Cluster} {i : Instance}

namespace Pass

variable {p : Pass}

theorem prunes_name {k : Key} (h : p.Prunes k) : k.name = "nfd-prune" :=
  name_of_mem_pruneKeys h.2

/-- A pass that spares what is shared touches none of it but what the prune job needs. -/
theorem not_clears_of_spares (hspares : p.spares c = true) {k : Key}
    (hscope : k.kind.clusterScoped = true) (hname : k.name ≠ "nfd-prune") : ¬ p.Clears c k := by
  rintro (hplan | hprune)
  · unfold plan at hplan
    rw [hspares] at hplan
    rw [clusterScoped_of_mem_deletionPlan hplan] at hscope
    cases hscope
  · exact hname (prunes_name hprune)

end Pass

namespace Context

variable {ctx : Context}

/-- While an instance of another namespace is to stay, no visit touches what they share. -/
theorem finalVisit_spares (h : ctx.templates.Sound) (hkeyed : c.Keyed)
    (hi : Table.get? c.instances i.id = some i) (hspares : (ctx.pass i).spares c = true)
    {k : Key} {o : ManagedObject} (ho : Table.get? c.objects k = some o)
    (hscope : k.kind.clusterScoped = true) (hname : k.name ≠ "nfd-prune")
    (hunowned : o.metadata.ownedBy i.metadata.uid = false) :
    Table.get? ((ctx.finalVisit i : StoreM Cluster Action).after c).objects k = some o := by
  have hk := Pass.not_clears_of_spares hspares hscope hname
  rcases ctx.finalVisit_cases h i c with ⟨c₁, hcleared, hrun⟩ | ⟨hserves, -⟩
  · rw [after_congr hrun]
    refine Pass.release_unowned (i := i) ?_ ((hcleared.removed.objects k hk).trans ho) hunowned
    rw [hcleared.removed.instances]
    exact hi
  · rw [(hserves hkeyed).objects k hk, ho]

/-- Once no instance of another namespace is to stay, the last visit leaves nothing shared. -/
theorem finalVisit_clears (h : ctx.templates.Sound) (hspares : (ctx.pass i).spares c = false)
    (hrun : ctx.finalVisit i c = .ok .await c') :
    ∀ k ∈ deletionPlan i false ctx.settings.manageSecurityPolicies,
      Table.get? c'.objects k = none := by
  intro k hk
  have hplan : k ∈ (ctx.pass i).plan c := by
    rw [Pass.plan_of_not_spares hspares]
    exact hk
  rcases ctx.finalVisit_cases h i c with ⟨c₁, hcleared, hrelease⟩ | ⟨-, hwaits⟩
  · rw [← after_ok (hrelease.symm.trans hrun)]
    exact Pass.release_absent (hcleared.gone k hplan)
  · exact absurd hrun (hwaits c')

/-- The rule for what instances share. While an instance of another namespace is to stay, a pass
over an instance that is to go leaves every object of the whole cluster as it is, whatever comes of
the pass: all but what the prune job needs and what names the instance as its owner. And when there
is no such instance, the pass that ends the instance leaves nothing that a component is made of,
whether it belongs to the namespace or to the whole cluster. -/
theorem reconcile_sharing (settings : Settings) (op : Operator Cluster) (i : Instance)
    (hkeyed : op.store.Keyed) (hi : Table.get? op.store.instances i.id = some i)
    (hdeleting : i.isDeleting = true) (hfinalizer : i.hasFinalizer = true) :
    let ctx : Context := { settings }
    let op' := StoreM.after (σ := Operator Cluster) (ctx.reconcileInstance i.id) op
    ((∃ j ∈ Table.values op.store.instances,
        j.metadata.ns ≠ i.metadata.ns ∧ j.isDeleting = false) →
      ∀ k o, Table.get? op.store.objects k = some o → k.kind.clusterScoped = true →
        k.name ≠ "nfd-prune" → o.metadata.ownedBy i.metadata.uid = false →
        Table.get? op'.store.objects k = some o) ∧
    ((∀ j ∈ Table.values op.store.instances,
        j.metadata.ns ≠ i.metadata.ns → j.isDeleting = true) →
      ctx.reconcileInstance i.id op = .ok .await op' →
      ∀ r ∈ Component.chain.flatMap Component.resources,
        (r.kind = .securityContextConstraints → settings.manageSecurityPolicies = true) →
        Table.get? op'.store.objects (r.key i) = none) := by
  intro ctx op'
  have htracks : OperatorM.Tracks (ctx.reconcileInstance i.id) (ctx.visit i.id) :=
    ctx.reconcileInstance_tracks (σ := Cluster) i.id
  have hvisit := ctx.visit_of_deleting hi hdeleting hfinalizer
  have hkeyed' : (op.store.record (.one .get i.id)).Keyed := hkeyed
  refine ⟨fun hothers k o ho hscope hname hunowned => ?_, fun hothers hawait r hr hmanage => ?_⟩
  · have hstore : op'.store = (ctx.finalVisit i : StoreM Cluster Action).after _ :=
      (htracks.store_after op).trans (after_congr hvisit)
    rw [hstore]
    exact finalVisit_spares Registry.own_sound hkeyed' hi (Pass.spares_iff.2 hothers) ho hscope
      hname hunowned
  · have hspares : (ctx.pass i).spares (op.store.record (.one .get i.id)) = false := by
      rw [← Bool.not_eq_true, Pass.spares_iff]
      rintro ⟨j, hj, hns, hlive⟩
      rw [hothers j hj hns] at hlive
      cases hlive
    have hrun := htracks.ok hawait
    rw [hvisit] at hrun
    exact finalVisit_clears Registry.own_sound hspares hrun _
      (mem_deletionPlan.2 ⟨r, planned_of_component _ r hr hmanage, rfl⟩)

/-- Two instances have been set up, and the first of them goes. -/
theorem reconcile_sharing_of_two :
    let a := Instance.bare ⟨"a", "nfd"⟩
    let b := Instance.bare ⟨"b", "nfd"⟩
    let ctx : Context := { settings := {} }
    let op := run ctx { store := {} } [.insertInstance a, .pass a.id, .pass a.id, .insertInstance b,
      .markDeleting a.id]
    let role : Key := .cluster .clusterRole "nfd-master"
    let op' := StoreM.after (σ := Operator Cluster) (ctx.reconcileInstance a.id) op
    ∃ o, Table.get? op.store.objects role = some o ∧
      Table.get? op'.store.objects role = some o := by
  intro a b ctx op role op'
  have hkeyed : op.store.Keyed := by
    unfold Keyed
    decide +kernel
  have hgoes : (Table.get? op.store.instances a.id).any (fun i => i.isDeleting ∧ i.hasFinalizer ∧
      i.id = a.id ∧ i.metadata.ns = some "a" ∧ i.metadata.uid = some "uid-1") = true := by
    decide +kernel
  have hstays : ∃ j ∈ Table.values op.store.instances,
      j.metadata.ns ≠ some "a" ∧ j.isDeleting = false := by
    decide +kernel
  have hshared : (Table.get? op.store.objects role).any
      (fun o => !o.metadata.ownedBy (some "uid-1")) = true := by
    decide +kernel
  clear_value op
  obtain ⟨i, hi, hknown⟩ := (Option.any_eq_true _ _).1 hgoes
  obtain ⟨hdeleting, hfinalizer, hid, hns, huid⟩ := of_decide_eq_true hknown
  obtain ⟨o, ho, hunowned⟩ := (Option.any_eq_true _ _).1 hshared
  have hop' : op' = StoreM.after (σ := Operator Cluster) (ctx.reconcileInstance i.id) op := by
    rw [hid]
  rw [← hid] at hi
  rw [hop']
  rw [← hns] at hstays
  rw [← huid] at hunowned
  exact ⟨o, ho, (reconcile_sharing {} op i hkeyed hi hdeleting hfinalizer).1 hstays role o ho rfl
    (by decide) (by simpa using hunowned)⟩

end Context

end NodeFeatureOperator
