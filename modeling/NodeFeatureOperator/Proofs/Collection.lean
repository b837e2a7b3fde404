import NodeFeatureOperator.Proofs.Accounting
import NodeFeatureOperator.Proofs.Custody
import NodeFeatureOperator.Proofs.Overlay

/-!
# How instances are collected

Two calls can be the end of an instance: one that asks for it to go, and one that replaces its
metadata and may take its last finalizer away. Both write the instance first and collect it
afterwards, so one lemma (`Cluster.collect_collects`) serves both. The main result
(`Cluster.collection_exact`) says when an instance goes with such a call, and that with it go the
objects that name it among their owners, and nothing else.
-/

namespace NodeFeatureOperator

/-- Nothing keeps the instance any more, and somebody has asked for it to go. -/
def Instance.Released (i : Instance) : Prop :=
  i.metadata.deletionTimestamp.isSome = true ∧ i.finalizers = []

/-- An object names the instance among its owners. -/
def ManagedObject.BelongsTo (o : ManagedObject) (i : Instance) : Prop :=
  ∃ r ∈ o.owners, some r.uid = i.metadata.uid

theorem ManagedObject.belongsTo_iff {o : ManagedObject} {i : Instance} :
    o.BelongsTo i ↔ o.metadata.ownedBy i.metadata.uid = true := by
  unfold BelongsTo owners Metadata.ownedBy
  cases o.metadata.ownerReferences <;> simp

namespace Cluster

variable {c d : Cluster} {id : InstanceId} {i written : Instance}

/-- What comes of a call that leaves an instance `written` under an identity. -/
structure Collects (c c' : Cluster) (id : InstanceId) (written : Instance) : Prop where
  removed_iff : Table.get? c'.instances id = none ↔ written.Released
  kept : ¬ written.Released →
    Table.get? c'.instances id = some written ∧ c'.objects = c.objects
  rows : written.Released → ∀ row, row ∈ c'.objects ↔ row ∈ c.objects ∧ ¬ row.2.BelongsTo written
  objects : written.Released → c.objects.Sorted → ∀ k o,
    Table.get? c'.objects k = some o ↔ Table.get? c.objects k = some o ∧ ¬ o.BelongsTo written
  others : ∀ id', id' ≠ id → Table.get? c'.instances id' = Table.get? c.instances id'

theorem collect_collects (hobjects : d.objects = c.objects)
    (hothers : ∀ id', id' ≠ id → Table.get? d.instances id' = Table.get? c.instances id')
    (hwritten : Table.get? d.instances id = some written) :
    Collects c (d.collect id) id written := by
  have hrest : ∀ id', id' ≠ id →
      Table.get? (d.collect id).instances id' = Table.get? c.instances id' :=
    fun id' hne => (get?_collect_of_ne hne).trans (hothers id' hne)
  by_cases hreleased : written.Released
  · have heq := collect_of_free hwritten hreleased.1 hreleased.2
    have hgone : Table.get? (d.collect id).instances id = none := by
      rw [heq]
      exact (Table.get?_erase ..).trans (if_pos rfl)
    have hkeeps (o : ManagedObject) :
        (!o.metadata.ownedBy written.metadata.uid) = true ↔ ¬ o.BelongsTo written := by
      rw [ManagedObject.belongsTo_iff, Bool.not_eq_true', Bool.not_eq_true]
    have hfilter : (d.collect id).objects =
        c.objects.filter fun row => !row.2.metadata.ownedBy written.metadata.uid := by
      rw [heq, ← hobjects]
      rfl
    refine ⟨iff_of_true hgone hreleased, fun h => absurd hreleased h, fun _ row => ?_,
      fun _ hsorted k o => ?_, hrest⟩
    · rw [hfilter, List.mem_filter, hkeeps]
    · rw [hfilter, hsorted.get?_filter, hkeeps]
  · have hheld : (written.isDeleting && written.finalizers.isEmpty) = false := by
      rw [Bool.eq_false_iff, Ne, Bool.and_eq_true, List.isEmpty_iff]
      exact hreleased
    have heq := collect_of_held hwritten hheld
    have hstays : Table.get? (d.collect id).instances id = some written := by rw [heq, hwritten]
    refine ⟨iff_of_false ?_ hreleased, fun _ => ⟨hstays, ?_⟩, fun h => absurd h hreleased,
      fun h => absurd h hreleased, hrest⟩
    · rw [hstays]
      exact Option.some_ne_none _
    · rw [heq, hobjects]

/-! ## The two calls -/

theorem markDeleting_collects (hi : Table.get? c.instances id = some i) :
    Collects c (c.markDeleting id) id (c.bump.mark i) := by
  rw [markDeleting_eq]
  refine collect_collects rfl (fun id' hne => ?_) ?_
  · exact (Table.get?_modify ..).trans (if_neg (Ne.symm hne))
  · rw [Table.get?_modify, if_pos rfl, hi, Option.map_some]

theorem updateInstance_collects {c' : Cluster}
    (h : (Store.updateInstance i : StoreM Cluster Instance) c = .ok written c') :
    ∃ old, Table.get? c.instances i.id = some old ∧
      written = (c.record (.one .update i.id)).bump.adopt old i ∧ Collects c c' i.id written := by
  rw [updateInstance_run] at h
  cases hold : Table.get? c.instances i.id with
  | none =>
    rw [hold] at h
    cases h
  | some old =>
    simp only [hold] at h
    split at h
    · cases h
    · cases h
      refine ⟨old, rfl, rfl, collect_collects rfl (fun id' hne => ?_) ?_⟩
      · exact (Table.get?_insert ..).trans (if_neg (Ne.symm hne))
      · exact Table.get?_insert_self ..

/-- Without an instance to mark there is nothing to collect. -/
theorem markDeleting_absent (hi : Table.get? c.instances id = none) :
    (c.markDeleting id).objects = c.objects ∧
      ∀ id', Table.get? (c.markDeleting id).instances id' = Table.get? c.instances id' := by
  rw [markDeleting_of_missing hi]
  refine ⟨rfl, fun id' => ?_⟩
  rw [Table.get?_modify]
  split
  · next heq => rw [← heq, hi, Option.map_none]
  · rfl

theorem adopt_eq (c : Cluster) (old i : Instance) :
    c.adopt old i = { old with
      spec := i.spec
      metadata := { old.metadata with
        finalizers := i.metadata.finalizers
        labels := i.metadata.labels
        annotations := i.metadata.annotations
        generation := (c.adopt old i).metadata.generation
        resourceVersion := some c.versionText } } := by
  by_cases hspec : old.spec = i.spec
  · unfold adopt
    simp only [hspec, if_true]
  · unfold adopt
    simp only [hspec, if_false]

/-- Which instances go, and what goes with them.

* To ask for an instance to go writes the time of the first such request to it. To replace an
  instance writes the labels, annotations, finalizers and spec of the new one.
* The instance is gone after either call if what was written is released, and only then. With it go
  the objects that name it among their owners, in every namespace. All else is as it was.
* A time that an instance has already is kept. -/
theorem collection_exact (c : Cluster) (id : InstanceId) :
    (∀ i, Table.get? c.instances id = some i →
      Collects c (c.markDeleting id) id { i with
        metadata := { i.metadata with
          deletionTimestamp := some (i.metadata.deletionTimestamp.getD (.reading c.step))
          resourceVersion := some c.bump.versionText } }) ∧
    (Table.get? c.instances id = none → (c.markDeleting id).objects = c.objects ∧
      ∀ id', Table.get? (c.markDeleting id).instances id' = Table.get? c.instances id') ∧
    (∀ i written c', i.id = id →
      (Store.updateInstance i : StoreM Cluster Instance) c = .ok written c' →
      Collects c c' id written ∧ ∃ old, Table.get? c.instances id = some old ∧
        written = { old with
          spec := i.spec
          metadata := { old.metadata with
            finalizers := i.metadata.finalizers
            labels := i.metadata.labels
            annotations := i.metadata.annotations
            generation := written.metadata.generation
            resourceVersion := some c.bump.versionText } }) ∧
    ∀ i t, Table.get? c.instances id = some i → i.metadata.deletionTimestamp = some t →
      i.finalizers ≠ [] → ∃ j, Table.get? (c.markDeleting id).instances id = some j ∧
        j.metadata.deletionTimestamp = some t := by
  refine ⟨fun i => markDeleting_collects, markDeleting_absent, fun i written c' hid h => ?_,
    fun i t hi ht hheld => ?_⟩
  · obtain ⟨old, hold, hwritten, hcollects⟩ := updateInstance_collects h
    rw [hid] at hold hcollects
    refine ⟨hcollects, old, hold, ?_⟩
    rw [hwritten]
    exact adopt_eq ..
  · have hstays : ¬ (c.bump.mark i).Released := fun h => hheld h.2
    refine ⟨_, ((markDeleting_collects hi).kept hstays).1, ?_⟩
    change some (i.metadata.deletionTimestamp.getD _) = some t
    rw [ht, Option.getD_some]

/-- An instance that is to go loses its last finalizer. An object of another namespace goes with it,
as it is the second among its owners; what another instance owns stays. -/
theorem collection_exact_of_released :
    let named (ns uid : String) : Instance := { Instance.bare ⟨ns, "nfd"⟩ with
      metadata := { name := some "nfd", ns := some ns, uid := some uid } }
    let leaving (finalizers : List String) : Instance := { named "a" "u" with
      metadata := { (named "a" "u").metadata with
        deletionTimestamp := some (.reading 3), finalizers := some finalizers } }
    let owner (uid : String) : OwnerReference := ⟨"", none, none, "", "", uid⟩
    let file (name : String) (owners : List OwnerReference) : ManagedObject :=
      { kind := .configMap, names := Kind.configMap.names, body := [],
        metadata := { name := some name, ns := some "b", ownerReferences := some owners } }
    let shared := file "shared" [owner "v", owner "u"]
    let other := file "other" [owner "v"]
    let c : Cluster :=
      { objects := [(other.key, other), (shared.key, shared)]
        instances := [(⟨"a", "nfd"⟩, leaving [Finalizer.own]), (⟨"b", "nfd"⟩, named "b" "v")]
        step := 9 }
    ∃ written c', (Store.updateInstance (leaving []) : StoreM Cluster Instance) c = .ok written c' ∧
      Collects c c' ⟨"a", "nfd"⟩ written ∧ written.Released ∧ c.objects.Sorted ∧
      Table.get? c'.instances ⟨"a", "nfd"⟩ = none ∧
      Table.get? c'.objects shared.key = none ∧ Table.get? c'.objects other.key = some other ∧
      ∃ j, Table.get? (c.markDeleting ⟨"a", "nfd"⟩).instances ⟨"a", "nfd"⟩ = some j ∧
        j.metadata.deletionTimestamp = some (.reading 3) := by
  intro named leaving owner file shared other c
  obtain ⟨-, -, hupdate, hmarked⟩ := collection_exact c ⟨"a", "nfd"⟩
  obtain ⟨hcollects, -⟩ := hupdate (leaving []) _ _ rfl rfl
  have hreleased : (leaving []).Released := ⟨rfl, rfl⟩
  have hsorted : c.objects.Sorted := by decide
  have hother := (hcollects.objects hreleased hsorted other.key other).2 ⟨rfl, by
    unfold ManagedObject.BelongsTo
    decide⟩
  exact ⟨_, _, rfl, hcollects, hreleased, hsorted, hcollects.removed_iff.2 hreleased, rfl, hother,
    hmarked _ _ rfl rfl (by decide)⟩

end Cluster

end NodeFeatureOperator
