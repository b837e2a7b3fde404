import NodeFeatureOperator.Proofs.Cluster.Objects

/-!
# What calls on instances do to a cluster

An instance is read and written under its identity. Writing its status changes nothing else of it
but its version, so everything that decides what the operator does next is kept
(`Instance.essence`). Replacing its metadata may let it go, together with all objects that name it
as an owner: `Cluster.collect`. None of this files an instance under another identity than its own
(`Cluster.Named`).
-/

namespace NodeFeatureOperator

instance : Std.TransOrd InstanceId :=
  inferInstanceAs (Std.TransCmp (compareLex (compareOn InstanceId.ns) (compareOn InstanceId.name)))

instance : Std.LawfulEqOrd InstanceId where
  eq_of_compare {a b} h := by
    obtain ⟨ns, name⟩ := a
    obtain ⟨ns', name'⟩ := b
    have hthen : (compare ns ns').then (compare name name') = .eq := h
    rw [Ordering.then_eq_eq] at hthen
    rw [Std.LawfulEqCmp.eq_of_compare hthen.1, Std.LawfulEqCmp.eq_of_compare hthen.2]

/-- An instance without its status and its version. -/
def Instance.essence (i : Instance) : Instance :=
  { i with status := none, metadata := { i.metadata with resourceVersion := none } }

/-- What is read off an instance without its status and its version is the same for two instances
that differ in nothing else. -/
theorem Instance.eq_of_essence {β : Type} {i j : Instance} (f : Instance → β)
    (hf : ∀ i, f i.essence = f i) (h : i.essence = j.essence) : f i = f j := by
  rw [← hf i, h, hf j]

/-- Instances of one essence differ in their status and their version at most. -/
theorem Instance.eq_of_same_essence {i j : Instance} (h : j.essence = i.essence) :
    j = { i with
      status := j.status
      metadata := { i.metadata with resourceVersion := j.metadata.resourceVersion } } := by
  let restore (e : Instance) : Instance := { e with
    status := j.status
    metadata := { e.metadata with resourceVersion := j.metadata.resourceVersion } }
  have hrestored := congrArg restore h
  exact hrestored

theorem Instance.id_of_essence {i j : Instance} (h : i.essence = j.essence) : i.id = j.id :=
  eq_of_essence Instance.id (fun _ => rfl) h

/-! ## Finalizers -/

namespace Instance

theorem finalizers_removeFinalizer (i : Instance) :
    i.removeFinalizer.finalizers = Finalizer.remove i.finalizers Finalizer.own := by
  unfold finalizers removeFinalizer
  cases i.metadata.finalizers <;> rfl

theorem finalizers_addFinalizer {i : Instance} (h : i.hasFinalizer = false) :
    i.addFinalizer.finalizers = i.finalizers ++ [Finalizer.own] :=
  if_neg (of_decide_eq_false h)

end Instance

namespace Cluster

open StoreM (Keeps)

variable {K L : Key → Prop} {c c' c'' : Cluster}

/-! ## Reading -/

theorem getInstance_run (id : InstanceId) (c : Cluster) :
    (Store.getInstance id : StoreM Cluster (Option Instance)) c =
      .ok (Table.get? c.instances id) (c.record (.one .get id)) := rfl

/-! ## Writing -/

/-- The instance `old` with what a writer may replace taken from `i`. -/
def adopt (c : Cluster) (old i : Instance) : Instance :=
  let m := { old.metadata with
    finalizers := i.metadata.finalizers
    labels := i.metadata.labels
    annotations := i.metadata.annotations
    resourceVersion := some c.versionText }
  if old.spec = i.spec then { old with metadata := m }
  else { old with
    spec := i.spec
    metadata := { m with generation := some (m.generation.getD 0 + 1) } }

/-- The instance `old` with the status of `i`. -/
def report (c : Cluster) (old i : Instance) : Instance :=
  { old with
    status := i.status
    metadata := { old.metadata with resourceVersion := some c.versionText } }

/-- The cluster with an instance under an identity. -/
def putInstance (c : Cluster) (id : InstanceId) (i : Instance) : Cluster :=
  { c with instances := Table.insert c.instances id i }

theorem current_run (verb : Verb) (i : Instance) (c : Cluster) :
    current verb i c =
      let c' := (c.record (.one verb i.id)).bump
      match Table.get? c.instances i.id with
      | none => .error (.api (refusal 404 "NotFound")) c'
      | some old =>
        if isStale i.metadata old.metadata then .error (.api (refusal 409 "Conflict")) c'
        else .ok old c' := by
  change (match Table.get? c.instances i.id with
    | none => _
    | some _ => _ : StoreM Cluster Instance) _ = _
  cases Table.get? c.instances i.id with
  | none => rfl
  | some old =>
    change (if isStale i.metadata old.metadata then _ else _ : StoreM Cluster Instance) _ = _
    by_cases h : isStale i.metadata old.metadata = true
    · simp only [h, if_true]
      rfl
    · simp only [h]
      rfl

theorem updateInstance_run (i : Instance) (c : Cluster) :
    (Store.updateInstance i : StoreM Cluster Instance) c =
      let c' := (c.record (.one .update i.id)).bump
      match Table.get? c.instances i.id with
      | none => .error (.api (refusal 404 "NotFound")) c'
      | some old =>
        if isStale i.metadata old.metadata then .error (.api (refusal 409 "Conflict")) c'
        else .ok (c'.adopt old i) ((c'.putInstance i.id (c'.adopt old i)).collect i.id) := by
  change (current .update i >>= fun _ => _) c = _
  have hcurrent := current_run .update i c
  cases h : Table.get? c.instances i.id with
  | none =>
    simp only [h] at hcurrent
    exact StoreM.bind_of_error hcurrent
  | some old =>
    simp only [h] at hcurrent
    by_cases hs : isStale i.metadata old.metadata = true
    · simp only [hs, if_true] at hcurrent ⊢
      exact StoreM.bind_of_error hcurrent
    · simp only [hs, Bool.false_eq_true, if_false] at hcurrent ⊢
      exact StoreM.bind_of_ok hcurrent

theorem updateStatus_run (i : Instance) (c : Cluster) :
    (Store.updateStatus i : StoreM Cluster Instance) c =
      let c' := (c.record (.one .status i.id)).bump
      match Table.get? c.instances i.id with
      | none => .error (.api (refusal 404 "NotFound")) c'
      | some old =>
        if isStale i.metadata old.metadata then .error (.api (refusal 409 "Conflict")) c'
        else .ok (c'.report old i) (c'.putInstance i.id (c'.report old i)) := by
  change (current .status i >>= fun _ => _) c = _
  have hcurrent := current_run .status i c
  cases h : Table.get? c.instances i.id with
  | none =>
    simp only [h] at hcurrent
    exact StoreM.bind_of_error hcurrent
  | some old =>
    simp only [h] at hcurrent
    by_cases hs : isStale i.metadata old.metadata = true
    · simp only [hs, if_true] at hcurrent ⊢
      exact StoreM.bind_of_error hcurrent
    · simp only [hs, Bool.false_eq_true, if_false] at hcurrent ⊢
      exact StoreM.bind_of_ok hcurrent

theorem isStale_self (m : Metadata) : isStale m m = false := by
  simp [isStale]

/-- What is written with other finalizers only is taken as it is written, with a new version. -/
theorem adopt_of_finalizers (c : Cluster) (i : Instance) (finalizers : Option (List String)) :
    c.adopt i { i with metadata := { i.metadata with finalizers } } =
      { i with
        metadata := { i.metadata with finalizers, resourceVersion := some c.versionText } } := by
  unfold adopt
  rw [if_pos rfl]

theorem adopt_essence (c : Cluster) (i : Instance) (finalizers : Option (List String)) :
    (c.adopt i { i with metadata := { i.metadata with finalizers } }).essence
      = ({ i with metadata := { i.metadata with finalizers } } : Instance).essence := by
  rw [adopt_of_finalizers]
  rfl

@[simp] theorem adopt_uid (c : Cluster) (old i : Instance) :
    (c.adopt old i).metadata.uid = old.metadata.uid := by
  unfold adopt
  dsimp only
  split <;> rfl

/-- A writer that has just read the instance replaces it. -/
theorem updateInstance_fresh {i j : Instance} (hi : Table.get? c.instances i.id = some i)
    (hid : j.id = i.id) (hversion : j.metadata.resourceVersion = i.metadata.resourceVersion) :
    let called := (c.record (.one .update i.id)).bump
    (Store.updateInstance j : StoreM Cluster Instance) c =
      .ok (called.adopt i j) ((called.putInstance i.id (called.adopt i j)).collect i.id) := by
  have hseen : isStale j.metadata i.metadata = false := by
    rw [← isStale_self i.metadata]
    unfold isStale
    rw [hversion]
  rw [updateInstance_run, hid, hi]
  simp only [hseen, Bool.false_eq_true, if_false]

/-! ## Collection -/

/-- The cluster without an instance and without all that names a uid among its owners. -/
def without (c : Cluster) (id : InstanceId) (uid : Option String) : Cluster :=
  { c with
    instances := Table.erase c.instances id
    objects := c.objects.filter fun row => !row.2.metadata.ownedBy uid }

theorem collect_of_held {id : InstanceId} {i : Instance} (hi : Table.get? c.instances id = some i)
    (hheld : (i.isDeleting && i.finalizers.isEmpty) = false) : c.collect id = c := by
  unfold collect
  rw [hi]
  simp only [hheld, Bool.false_eq_true, if_false]

theorem collect_of_free {id : InstanceId} {i : Instance} (hi : Table.get? c.instances id = some i)
    (hdeleting : i.isDeleting = true) (hfree : i.finalizers = []) :
    c.collect id = c.without id i.metadata.uid := by
  unfold collect
  rw [hi]
  simp only [hdeleting, hfree, List.isEmpty_nil, Bool.and_self, if_true]
  rfl

/-- Collection either does nothing or lets the instance and what it owns go. -/
theorem collect_cases (c : Cluster) (id : InstanceId) :
    c.collect id = c ∨ ∃ i, Table.get? c.instances id = some i ∧ i.isDeleting = true ∧
      i.finalizers = [] ∧ c.collect id = c.without id i.metadata.uid := by
  cases hi : Table.get? c.instances id with
  | none =>
    left
    unfold collect
    rw [hi]
  | some i =>
    cases hheld : i.isDeleting && i.finalizers.isEmpty with
    | false => exact Or.inl (collect_of_held hi hheld)
    | true =>
      obtain ⟨hdeleting, hfree⟩ := Bool.and_eq_true_iff.1 hheld
      have hfree := List.isEmpty_iff.1 hfree
      exact Or.inr ⟨i, rfl, hdeleting, hfree, collect_of_free hi hdeleting hfree⟩

/-- Collection lets only the instance go that is to be collected. -/
theorem get?_collect_of_ne {id id' : InstanceId} (hne : id' ≠ id) :
    Table.get? (c.collect id).instances id' = Table.get? c.instances id' := by
  rcases collect_cases c id with heq | ⟨i, -, -, -, heq⟩
  · rw [heq]
  · rw [heq]
    exact (Table.get?_erase ..).trans (if_neg (Ne.symm hne))

/-- An instance that is still there after a collection is as it was. -/
theorem get?_of_collect {id id' : InstanceId} {j : Instance}
    (hj : Table.get? (c.collect id).instances id' = some j) :
    Table.get? c.instances id' = some j := by
  by_cases hne : id' = id
  · subst hne
    rcases collect_cases c id' with heq | ⟨i, -, -, -, heq⟩
    · rwa [heq] at hj
    · rw [heq] at hj
      cases hj.symm.trans ((Table.get?_erase ..).trans (if_pos rfl))
  · exact (get?_collect_of_ne hne).symm.trans hj

theorem get?_object_of_collect (h : c.objects.Sorted) {id : InstanceId} {k : Key}
    {o : ManagedObject} (ho : Table.get? (c.collect id).objects k = some o) :
    Table.get? c.objects k = some o := by
  rcases collect_cases c id with heq | ⟨i, -, -, -, heq⟩
  · rwa [heq] at ho
  · rw [heq] at ho
    exact (h.get?_filter.1 ho).1

theorem sorted_collect (h : c.objects.Sorted) (id : InstanceId) :
    (c.collect id).objects.Sorted := by
  rcases collect_cases c id with heq | ⟨i, -, -, -, heq⟩
  · rwa [heq]
  · rw [heq]
    exact h.filter _

theorem Keyed.collect (h : c.Keyed) (id : InstanceId) : (c.collect id).Keyed := by
  rcases collect_cases c id with heq | ⟨i, -, -, -, heq⟩
  · rwa [heq]
  · rw [heq]
    exact fun row hrow => h row (List.mem_filter.1 hrow).1

/-- It makes no difference how an instance is written that goes. -/
theorem putInstance_without (c : Cluster) (id : InstanceId) (i : Instance) (uid : Option String) :
    (c.putInstance id i).without id uid = c.without id uid := by
  unfold putInstance without
  rw [Table.erase_insert]

/-- Collection brings nothing back. -/
theorem collect_absent {k : Key} (id : InstanceId) (h : Table.get? c.objects k = none) :
    Table.get? (c.collect id).objects k = none := by
  rcases collect_cases c id with heq | ⟨i, -, -, -, heq⟩
  · rw [heq, h]
  · rw [heq]
    exact Table.get?_filter_eq_none h

/-! ## Instances under their identities -/

namespace Named

theorem putInstance (h : c.Named) {id : InstanceId} {j : Instance} (hj : j.id = id) :
    (c.putInstance id j).Named := by
  intro id' i hi
  unfold Cluster.putInstance at hi
  rw [Table.get?_insert] at hi
  split at hi
  · next heq =>
    obtain rfl := Option.some.inj hi
    exact hj.trans heq
  · exact h id' i hi

theorem modify (h : c.Named) {id : InstanceId} {f : Instance → Instance}
    (hinstances : c'.instances = Table.modify c.instances id f) (hf : ∀ i, (f i).id = i.id) :
    c'.Named := by
  intro id' j hj
  rw [hinstances, Table.get?_modify] at hj
  split at hj
  · obtain ⟨i, hi, rfl⟩ := Option.map_eq_some_iff.1 hj
    exact (hf i).trans (h id' i hi)
  · exact h id' j hj

theorem collect (h : c.Named) (id : InstanceId) : (c.collect id).Named :=
  fun id' j hj => h id' j (get?_of_collect hj)

end Named

/-! ## Passes that let no instance go -/

/-- The second cluster differs from the first at most in the objects under keys of `K` and in the
statuses and versions of instances, besides what `Within` leaves open. -/
structure Serves (K : Key → Prop) (c c' : Cluster) : Prop where
  objects : ∀ k, ¬ K k → Table.get? c'.objects k = Table.get? c.objects k
  keyed : c.Keyed → c'.Keyed
  ordered : c.objects.Sorted → c'.objects.Sorted
  sorted : c.instances.Sorted → c'.instances.Sorted
  instances : ∀ id,
    (Table.get? c'.instances id).map Instance.essence
      = (Table.get? c.instances id).map Instance.essence
  failures : c'.failures = c.failures
  sticky : c'.sticky = c.sticky
  step : c'.step = c.step

namespace Serves

theorem refl (c : Cluster) : Serves K c c :=
  ⟨fun _ _ => rfl, id, id, id, fun _ => rfl, rfl, rfl, rfl⟩

theorem trans (h : Serves K c c') (h' : Serves K c' c'') : Serves K c c'' where
  objects k hk := (h'.objects k hk).trans (h.objects k hk)
  keyed hc := h'.keyed (h.keyed hc)
  ordered hc := h'.ordered (h.ordered hc)
  sorted hc := h'.sorted (h.sorted hc)
  instances id := (h'.instances id).trans (h.instances id)
  failures := h'.failures.trans h.failures
  sticky := h'.sticky.trans h.sticky
  step := h'.step.trans h.step

theorem mono (hKL : ∀ k, K k → L k) (h : Serves K c c') : Serves L c c' :=
  { h with objects := fun k hk => h.objects k fun hK => hk (hKL k hK) }

theorem quiet (h : Serves K c c') (hc : c.Quiet) : c'.Quiet :=
  ⟨h.failures.trans hc.failures, h.sticky.trans hc.sticky⟩

/-- Every instance is still there. -/
theorem instance_after (h : Serves K c c') {id : InstanceId} {i : Instance}
    (hi : Table.get? c.instances id = some i) :
    ∃ j, Table.get? c'.instances id = some j ∧ j.essence = i.essence := by
  have := h.instances id
  rw [hi, Option.map_some, Option.map_eq_some_iff] at this
  exact this

/-- No instance is new. -/
theorem instance_before (h : Serves K c c') {id : InstanceId} {j : Instance}
    (hj : Table.get? c'.instances id = some j) :
    ∃ i, Table.get? c.instances id = some i ∧ j.essence = i.essence := by
  have := h.instances id
  rw [hj, Option.map_some, eq_comm, Option.map_eq_some_iff] at this
  obtain ⟨i, hi, heq⟩ := this
  exact ⟨i, hi, heq.symm⟩

end Serves

instance : IsPreorder Cluster (Serves K) where
  refl := Serves.refl
  trans _ _ _ := Serves.trans

theorem Within.serves (h : Within K c c') : Serves K c c' where
  objects := h.objects
  keyed := h.keyed
  ordered := h.ordered
  sorted hc := by rwa [h.instances]
  instances id := by rw [h.instances]
  failures := h.failures
  sticky := h.sticky
  step := h.step

/-- `Serves K`, if every object was under its own key. -/
def Attends (K : Key → Prop) (c c' : Cluster) : Prop := c.Keyed → Serves K c c'

instance : IsPreorder Cluster (Attends K) where
  refl c _ := Serves.refl c
  trans _ _ _ h h' hc := (h hc).trans (h' ((h hc).keyed hc))

theorem Serves.attends (h : Serves K c c') : Attends K c c' := fun _ => h

theorem Touches.attends (h : Touches K c c') : Attends K c c' := fun hc => (h hc).serves

theorem Attends.mono (hKL : ∀ k, K k → L k) (h : Attends K c c') : Attends L c c' :=
  fun hc => (h hc).mono hKL

theorem serves_putInstance (c : Cluster) {id : InstanceId} {old new : Instance}
    (hold : Table.get? c.instances id = some old) (hessence : new.essence = old.essence) :
    Serves K c (c.putInstance id new) where
  objects _ _ := rfl
  keyed := fun hc => hc
  ordered := fun hc => hc
  sorted hc := hc.insert id new
  instances id' := by
    unfold putInstance
    rw [Table.get?_insert]
    split
    · next heq => rw [← heq, hold, Option.map_some, Option.map_some, hessence]
    · rfl
  failures := rfl
  sticky := rfl
  step := rfl

theorem updateStatus_serves (i : Instance) :
    Keeps (Serves K) (Store.updateStatus i : StoreM Cluster Instance) := by
  intro c
  have hcalled : Serves K c (c.record (.one .status i.id)).bump :=
    ((removed_record c _).trans (removed_bump _)).toWithin.serves
  unfold StoreM.after
  rw [updateStatus_run]
  cases h : Table.get? c.instances i.id with
  | none => exact hcalled
  | some old =>
    by_cases hs : isStale i.metadata old.metadata = true
    · simp only [hs, if_true]
      exact hcalled
    · simp only [hs, Bool.false_eq_true, if_false]
      exact hcalled.trans (serves_putInstance _ h rfl)

end Cluster

end NodeFeatureOperator
