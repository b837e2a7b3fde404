import NodeFeatureOperator.Proofs.Cluster.Instances
import NodeFeatureOperator.Proofs.History

/-!
# Versions

Any number of clients send requests to a cluster, which serves one after the other. Every request
that writes an object or an instance gives it a version of its own, higher than any before
(`run_renews`), so a writer that shows the version of what it has read cannot overwrite what
somebody else has written in the meantime: no update is lost (`no_lost_update`).
-/

namespace NodeFeatureOperator.Cluster

/-- Where something is stored. -/
inductive Place where
  | object (key : Key)
  | one (id : InstanceId)
deriving DecidableEq

/-- What is stored. -/
inductive Item where
  | object (o : ManagedObject)
  | one (i : Instance)

/-- The version that something carries. -/
def Item.version : Item → Option String
  | object o => o.metadata.resourceVersion
  | one i => i.metadata.resourceVersion

/-- What is stored at a place. -/
def itemAt (c : Cluster) : Place → Option Item
  | .object key => (Table.get? c.objects key).map .object
  | .one id => (Table.get? c.instances id).map .one

/-- What a client can ask of a cluster, and what can be arranged for it from outside. -/
inductive Request where
  | get (key : Key)
  | create (o : ManagedObject)
  | update (o : ManagedObject)
  | delete (key : Key)
  | insert (o : ManagedObject)
  | getInstance (id : InstanceId)
  | updateInstance (i : Instance)
  | updateStatus (i : Instance)
  | insertInstance (i : Instance)
  | markDeleting (id : InstanceId)
  | edit (id : InstanceId) (f : Instance → Instance)
  | failOn (verb : Verb) (key : Key) (code : Nat)
  | clearFailures
  | keepOnDelete (key : Key)
  | clock (step : Nat)

namespace Request

/-- What becomes of a request. It answers with what it has written, if it says so. -/
def run : Request → StoreM Cluster (Option Item)
  | get key => (Store.get key : StoreM Cluster _) >>= fun _ => pure none
  | create o => (Store.create o : StoreM Cluster _) >>= fun o => pure (some (.object o))
  | update o => (Store.update o : StoreM Cluster _) >>= fun o => pure (some (.object o))
  | delete key => (Store.delete key : StoreM Cluster _) >>= fun _ => pure none
  | insert o => fun c => .ok (some (.object (c.insert o).1)) (c.insert o).2
  | getInstance id => (Store.getInstance id : StoreM Cluster _) >>= fun _ => pure none
  | updateInstance i =>
    (Store.updateInstance i : StoreM Cluster _) >>= fun i => pure (some (.one i))
  | updateStatus i => (Store.updateStatus i : StoreM Cluster _) >>= fun i => pure (some (.one i))
  | insertInstance i => fun c => .ok (some (.one (c.insertInstance i).1)) (c.insertInstance i).2
  | markDeleting id => fun c => .ok none (c.markDeleting id)
  | edit id f => fun c => .ok none (c.editWith id f)
  | failOn verb key code => fun c => .ok none (c.failOn verb key code)
  | clearFailures => fun c => .ok none c.clearFailures
  | keepOnDelete key => fun c => .ok none (c.keepOnDelete key)
  | clock step => fun c => .ok none { c with step }

/-- The place that a request may write. -/
def place? : Request → Option Place
  | create o | update o | insert o => some (.object o.key)
  | updateInstance i | updateStatus i | insertInstance i => some (.one i.id)
  | markDeleting id | edit id _ => some (.one id)
  | _ => none

/-- The version that an update carries. -/
def carried? : Request → Option String
  | update o => o.metadata.resourceVersion
  | updateInstance i | updateStatus i => i.metadata.resourceVersion
  | _ => none

/-- The request gives a version to something that it writes at a place: it answers with it, or
leaves it there. -/
def Gives (q : Request) (c : Cluster) (p : Place) (v : String) : Prop :=
  q.place? = some p ∧ ∃ x : Item, x.version = some v ∧
    ((∃ c', q.run c = .ok (some x) c') ∨
      (q.run.after c).itemAt p = some x ∧ c.itemAt p ≠ some x)

end Request

/-- The cluster that has served requests, from the time when it was empty. -/
def served (requests : List Request) : Cluster := requests.foldl (fun c q => q.run.after c) {}

variable {c c' : Cluster} {p p' : Place} {at? : Option Place} {x y : Item} {q : Request}
  {v : String}

/-! ## What a request may change -/

/-- At most at one place there is something in the second cluster that was not in the first. It has
the version given out last, and the version is new. -/
structure Renews (at? : Option Place) (c c' : Cluster) : Prop where
  version : c.version ≤ c'.version
  items : ∀ p x, c'.itemAt p = some x →
    c.itemAt p = some x ∨
      at? = some p ∧ c.version < c'.version ∧ x.version = some c'.versionText
  ordered : c'.objects.Sorted
  keyed : c.Keyed → c'.Keyed

theorem renews_record (h : c.objects.Sorted) (call : Call) : Renews at? c (c.record call) :=
  ⟨Nat.le_refl _, fun _ _ hx => Or.inl hx, h, id⟩

theorem Renews.of_record {call : Call} (h : Renews at? (c.record call) c') : Renews at? c c' :=
  ⟨h.version, h.items, h.ordered, h.keyed⟩

theorem renews_bump (h : c.objects.Sorted) : Renews at? c c.bump :=
  ⟨Nat.le_succ _, fun _ _ hx => Or.inl hx, h, id⟩

/-- An object is written with a version of its own. -/
theorem renews_put (h : c.objects.Sorted) {o : ManagedObject}
    (ho : o.metadata.resourceVersion = some c.bump.versionText) :
    Renews (some (.object o.key)) c (c.bump.put o) where
  version := Nat.le_succ _
  items p x hx := by
    cases p with
    | one id => exact Or.inl hx
    | object key =>
      obtain ⟨o', ho', rfl⟩ := Option.map_eq_some_iff.1 hx
      unfold put at ho'
      rw [Table.get?_insert] at ho'
      split at ho'
      · next hkey =>
        obtain rfl := Option.some.inj ho'
        exact Or.inr ⟨by rw [hkey], Nat.lt_succ_self _, ho⟩
      · exact Or.inl (Option.map_eq_some_iff.2 ⟨o', ho', rfl⟩)
  ordered := h.insert o.key o
  keyed hc := hc.insert o

/-- At most one instance is written, with a version of its own. -/
theorem renews_instances (h : c.objects.Sorted) {id : InstanceId} {t : Table InstanceId Instance}
    (ht : ∀ id' i, Table.get? t id' = some i →
      Table.get? c.instances id' = some i ∨
        id = id' ∧ i.metadata.resourceVersion = some c.bump.versionText) :
    Renews (some (.one id)) c { c.bump with instances := t } where
  version := Nat.le_succ _
  items p x hx := by
    cases p with
    | object key => exact Or.inl hx
    | one id' =>
      obtain ⟨i, hi, rfl⟩ := Option.map_eq_some_iff.1 hx
      rcases ht id' i hi with hold | ⟨rfl, hnew⟩
      · exact Or.inl (Option.map_eq_some_iff.2 ⟨i, hold, rfl⟩)
      · exact Or.inr ⟨rfl, Nat.lt_succ_self _, hnew⟩
  ordered := h
  keyed hc := hc

theorem renews_putInstance (h : c.objects.Sorted) (id : InstanceId) {i : Instance}
    (hi : i.metadata.resourceVersion = some c.bump.versionText) :
    Renews (some (.one id)) c (c.bump.putInstance id i) := by
  refine renews_instances h fun id' j hj => ?_
  rw [Table.get?_insert] at hj
  split at hj
  · next hid =>
    obtain rfl := Option.some.inj hj
    exact Or.inr ⟨hid, hi⟩
  · exact Or.inl hj

theorem renews_modify (h : c.objects.Sorted) (id : InstanceId) {f : Instance → Instance}
    (hf : ∀ i, (f i).metadata.resourceVersion = some c.bump.versionText) :
    Renews (some (.one id)) c { c.bump with instances := Table.modify c.instances id f } := by
  refine renews_instances h fun id' i hi => ?_
  rw [Table.get?_modify] at hi
  split at hi
  · next hid =>
    obtain ⟨j, -, rfl⟩ := Option.map_eq_some_iff.1 hi
    exact Or.inr ⟨hid, hf j⟩
  · exact Or.inl hi

theorem collect_version (c : Cluster) (id : InstanceId) : (c.collect id).version = c.version := by
  rcases collect_cases c id with h | ⟨i, -, -, -, h⟩
  · rw [h]
  · rw [h]
    rfl

/-- Collection takes things away at most. -/
theorem itemAt_of_collect (h : c.objects.Sorted) {id : InstanceId}
    (hx : (c.collect id).itemAt p = some x) : c.itemAt p = some x := by
  cases p with
  | object key =>
    obtain ⟨o, ho, rfl⟩ := Option.map_eq_some_iff.1 hx
    exact Option.map_eq_some_iff.2 ⟨o, get?_object_of_collect h ho, rfl⟩
  | one id' =>
    obtain ⟨j, hj, rfl⟩ := Option.map_eq_some_iff.1 hx
    exact Option.map_eq_some_iff.2 ⟨j, get?_of_collect hj, rfl⟩

theorem Renews.collect (h : Renews at? c c') (id : InstanceId) : Renews at? c (c'.collect id) where
  version := by
    rw [collect_version]
    exact h.version
  items p x hx := by
    unfold versionText
    rw [collect_version]
    exact h.items p x (itemAt_of_collect h.ordered hx)
  ordered := sorted_collect h.ordered id
  keyed hc := (h.keyed hc).collect id

/-! ## How single calls end -/

/-- What is created is written with a version and a uid of its own. -/
theorem create_answer {o o' : ManagedObject}
    (h : (Store.create o : StoreM Cluster ManagedObject) c = .ok o' c') :
    ∃ uid, let called := (c.record (.object .create o.key)).bump
      o' = called.stamp uid o ∧ c' = called.put o' := by
  rw [create_run] at h
  cases hf : c.injected? .create o.key with
  | some e => simp [hf] at h
  | none =>
    rw [hf] at h
    dsimp only at h
    split at h
    · cases h
    · cases h
      exact ⟨_, rfl, rfl⟩

/-- What is replaced was there, in the version that the writer has seen if it has seen any. It is
written with a version of its own and keeps its uid. -/
theorem update_answer {o o' : ManagedObject}
    (h : (Store.update o : StoreM Cluster ManagedObject) c = .ok o' c') :
    ∃ old, Table.get? c.objects o.key = some old ∧ isStale o.metadata old.metadata = false ∧
      let called := (c.record (.object .update o.key)).bump
      o' = called.stamp old.metadata.uid o ∧ c' = called.put o' := by
  rw [update_run] at h
  cases hf : c.injected? .update o.key with
  | some e => simp [hf] at h
  | none =>
    rw [hf] at h
    cases ho : Table.get? c.objects o.key with
    | none => simp [ho] at h
    | some old =>
      rw [ho] at h
      dsimp only at h
      split at h
      · cases h
      · next hs =>
        cases h
        exact ⟨old, rfl, Bool.eq_false_iff.2 hs, rfl, rfl⟩

theorem get_error {key : Key} {e : Error}
    (h : (Store.get key : StoreM Cluster (Option ManagedObject)) c = .error e c') :
    c' = c.record (.object .get key) :=
  (StoreM.after_error h).symm.trans (get_after key c)

theorem delete_error {key : Key} {e : Error}
    (h : (Store.delete key : StoreM Cluster Unit) c = .error e c') :
    c' = c.record (.object .delete key) := by
  rw [delete_run] at h
  cases hf : c.injected? .delete key with
  | some e =>
    rw [hf] at h
    cases h
    rfl
  | none =>
    rw [hf] at h
    dsimp only at h
    split at h
    · cases h
    · cases h
      rfl

/-- A writer who means an instance finds it, in the version that the writer has seen if it has seen
any. -/
theorem current_answer {verb : Verb} {i old : Instance} (h : current verb i c = .ok old c') :
    Table.get? c.instances i.id = some old ∧ isStale i.metadata old.metadata = false ∧
      c' = (c.record (.one verb i.id)).bump := by
  rw [current_run] at h
  cases hi : Table.get? c.instances i.id with
  | none => simp [hi] at h
  | some found =>
    rw [hi] at h
    dsimp only at h
    split at h
    · cases h
    · next hs =>
      cases h
      exact ⟨rfl, Bool.eq_false_iff.2 hs, rfl⟩

theorem current_error {verb : Verb} {i : Instance} {e : Error}
    (h : current verb i c = .error e c') : c' = (c.record (.one verb i.id)).bump := by
  rw [current_run] at h
  cases hi : Table.get? c.instances i.id with
  | none =>
    rw [hi] at h
    cases h
    rfl
  | some old =>
    rw [hi] at h
    dsimp only at h
    split at h
    · cases h
      rfl
    · cases h

theorem updateInstance_answer {i j : Instance}
    (h : (Store.updateInstance i : StoreM Cluster Instance) c = .ok j c') :
    ∃ old, Table.get? c.instances i.id = some old ∧ isStale i.metadata old.metadata = false ∧
      let called := (c.record (.one .update i.id)).bump
      j = called.adopt old i ∧ c' = (called.putInstance i.id j).collect i.id := by
  obtain ⟨old, c₁, hcurrent, hwrite⟩ := StoreM.bind_ok.1 h
  obtain ⟨hold, hseen, rfl⟩ := current_answer hcurrent
  cases hwrite
  exact ⟨old, hold, hseen, rfl, rfl⟩

theorem updateStatus_answer {i j : Instance}
    (h : (Store.updateStatus i : StoreM Cluster Instance) c = .ok j c') :
    ∃ old, Table.get? c.instances i.id = some old ∧ isStale i.metadata old.metadata = false ∧
      let called := (c.record (.one .status i.id)).bump
      j = called.report old i ∧ c' = called.putInstance i.id j := by
  obtain ⟨old, c₁, hcurrent, hwrite⟩ := StoreM.bind_ok.1 h
  obtain ⟨hold, hseen, rfl⟩ := current_answer hcurrent
  cases hwrite
  exact ⟨old, hold, hseen, rfl, rfl⟩

theorem updateInstance_error {i : Instance} {e : Error}
    (h : (Store.updateInstance i : StoreM Cluster Instance) c = .error e c') :
    c' = (c.record (.one .update i.id)).bump := by
  rcases StoreM.bind_error.1 h with hcurrent | ⟨_, _, -, ⟨⟩⟩
  exact current_error hcurrent

theorem updateStatus_error {i : Instance} {e : Error}
    (h : (Store.updateStatus i : StoreM Cluster Instance) c = .error e c') :
    c' = (c.record (.one .status i.id)).bump := by
  rcases StoreM.bind_error.1 h with hcurrent | ⟨_, _, -, ⟨⟩⟩
  exact current_error hcurrent

/-! ## Requests -/

theorem get_renews (h : c.objects.Sorted) (key : Key) :
    Renews at? c ((Store.get key : StoreM Cluster (Option ManagedObject)).after c) := by
  rw [get_after]
  exact renews_record h _

theorem delete_renews (h : c.objects.Sorted) (key : Key) :
    Renews at? c ((Store.delete key : StoreM Cluster Unit).after c) := by
  have hremoved := delete_removed key c
  refine ⟨?_, fun p x hx => Or.inl ?_, hremoved.ordered h, hremoved.keyed⟩
  · rcases delete_after key c with hafter | hafter
    · rw [hafter]
      exact Nat.le_refl c.version
    · rw [hafter]
      exact Nat.le_refl c.version
  · cases p with
    | object key' =>
      obtain ⟨o, ho, rfl⟩ := Option.map_eq_some_iff.1 hx
      exact Option.map_eq_some_iff.2 ⟨o, hremoved.only key' o ho, rfl⟩
    | one id =>
      obtain ⟨i, hi, rfl⟩ := Option.map_eq_some_iff.1 hx
      rw [hremoved.instances] at hi
      exact Option.map_eq_some_iff.2 ⟨i, hi, rfl⟩

theorem adopt_version (c : Cluster) (old i : Instance) :
    (c.adopt old i).metadata.resourceVersion = some c.versionText := by
  unfold adopt
  dsimp only
  split <;> rfl

/-- A version is given out for a writer who is refused, too. -/
theorem renews_refused (h : c.objects.Sorted) (verb : Verb) (id : InstanceId) :
    Renews at? c (c.record (.one verb id)).bump :=
  (renews_bump (c := c.record (.one verb id)) h).of_record

theorem updateInstance_renews (h : c.objects.Sorted) (i : Instance) :
    Renews (some (.one i.id)) c
      ((Store.updateInstance i : StoreM Cluster Instance).after c) := by
  cases hrun : (Store.updateInstance i : StoreM Cluster Instance) c with
  | ok j c' =>
    obtain ⟨old, -, -, rfl, rfl⟩ := updateInstance_answer hrun
    rw [StoreM.after_ok hrun]
    exact ((renews_putInstance (c := c.record (.one .update i.id)) h i.id
      (adopt_version ..)).collect i.id).of_record
  | error e c' =>
    rw [StoreM.after_error hrun, updateInstance_error hrun]
    exact renews_refused h .update i.id

theorem updateStatus_renews (h : c.objects.Sorted) (i : Instance) :
    Renews (some (.one i.id)) c ((Store.updateStatus i : StoreM Cluster Instance).after c) := by
  cases hrun : (Store.updateStatus i : StoreM Cluster Instance) c with
  | ok j c' =>
    obtain ⟨old, -, -, rfl, rfl⟩ := updateStatus_answer hrun
    rw [StoreM.after_ok hrun]
    exact (renews_putInstance (c := c.record (.one .status i.id))
      (i := report _ old i) h i.id rfl).of_record
  | error e c' =>
    rw [StoreM.after_error hrun, updateStatus_error hrun]
    exact renews_refused h .status i.id

/-- What a request does to a cluster. -/
theorem run_renews (h : c.objects.Sorted) (q : Request) : Renews q.place? c (q.run.after c) := by
  cases q with
  | get key =>
    unfold Request.run
    rw [StoreM.after_bind_pure]
    exact get_renews h key
  | create o =>
    unfold Request.run
    rw [StoreM.after_bind_pure]
    rcases create_after o c with heq | ⟨uid, heq⟩
    · rw [heq]
      exact renews_record h _
    · rw [heq]
      have hput := renews_put (c := c.record (.object .create o.key)) (o := stamp _ uid o) h rfl
      exact hput.of_record
  | update o =>
    unfold Request.run
    rw [StoreM.after_bind_pure]
    rcases update_after o c with heq | ⟨uid, heq⟩
    · rw [heq]
      exact renews_record h _
    · rw [heq]
      have hput := renews_put (c := c.record (.object .update o.key)) (o := stamp _ uid o) h rfl
      exact hput.of_record
  | delete key =>
    unfold Request.run
    rw [StoreM.after_bind_pure]
    exact delete_renews h key
  | insert o => exact renews_put (o := (c.insert o).1) h rfl
  | getInstance id => exact renews_record h _
  | updateInstance i =>
    unfold Request.run
    rw [StoreM.after_bind_pure]
    exact updateInstance_renews h i
  | updateStatus i =>
    unfold Request.run
    rw [StoreM.after_bind_pure]
    exact updateStatus_renews h i
  | insertInstance i => exact renews_putInstance (i := (c.insertInstance i).1) h i.id rfl
  | markDeleting id => exact (renews_modify h id fun _ => rfl).collect id
  | edit id f => exact renews_modify h id fun _ => rfl
  | failOn | clearFailures | keepOnDelete | clock =>
    exact ⟨Nat.le_refl _, fun _ _ hx => Or.inl hx, h, id⟩

theorem itemAt_put (c : Cluster) (o : ManagedObject) :
    (c.put o).itemAt (.object o.key) = some (.object o) :=
  congrArg (Option.map Item.object) (Table.get?_insert_self ..)

theorem itemAt_putInstance (c : Cluster) (id : InstanceId) (i : Instance) :
    (c.putInstance id i).itemAt (.one id) = some (.one i) :=
  congrArg (Option.map Item.one) (Table.get?_insert_self ..)

/-- Nothing is in the place of an instance that collection has taken. -/
theorem itemAt_collect (c : Cluster) (id : InstanceId) :
    (c.collect id).itemAt (.one id) = c.itemAt (.one id) ∨
      (c.collect id).itemAt (.one id) = none := by
  rcases collect_cases c id with heq | ⟨i, -, -, -, heq⟩
  · rw [heq]
    exact Or.inl rfl
  · rw [heq]
    refine Or.inr (congrArg (Option.map Item.one) ((Table.get?_erase ..).trans (if_pos rfl)))

/-- What a request answers with has the version given out last, which is new. The place that the
request writes holds nothing else. -/
theorem run_answers (h : q.run c = .ok (some x) c') :
    c.version < c'.version ∧ x.version = some c'.versionText ∧
      ∀ p, q.place? = some p → c'.itemAt p = some x ∨ c'.itemAt p = none := by
  have hone : c.version < c.version + 1 := Nat.lt_succ_self _
  cases q with
  | create o =>
    obtain ⟨o', c₁, hcreate, hpure⟩ := StoreM.bind_ok.1 h
    cases hpure
    obtain ⟨uid, rfl, rfl⟩ := create_answer hcreate
    refine ⟨hone, rfl, fun p hp => Or.inl ?_⟩
    cases hp
    exact itemAt_put _ (stamp _ uid o)
  | update o =>
    obtain ⟨o', c₁, hupdate, hpure⟩ := StoreM.bind_ok.1 h
    cases hpure
    obtain ⟨old, -, -, rfl, rfl⟩ := update_answer hupdate
    refine ⟨hone, rfl, fun p hp => Or.inl ?_⟩
    cases hp
    exact itemAt_put _ (stamp _ old.metadata.uid o)
  | insert o =>
    cases h
    refine ⟨hone, rfl, fun p hp => Or.inl ?_⟩
    cases hp
    exact itemAt_put _ (c.insert o).1
  | updateInstance i =>
    obtain ⟨j, c₁, hupdate, hpure⟩ := StoreM.bind_ok.1 h
    cases hpure
    obtain ⟨old, -, -, rfl, rfl⟩ := updateInstance_answer hupdate
    refine ⟨?_, ?_, fun p hp => ?_⟩
    · rw [collect_version]
      exact hone
    · unfold versionText
      rw [collect_version]
      exact adopt_version ..
    · cases hp
      refine (itemAt_collect _ i.id).imp_left fun hcollect => ?_
      exact hcollect.trans (itemAt_putInstance ..)
  | updateStatus i =>
    obtain ⟨j, c₁, hupdate, hpure⟩ := StoreM.bind_ok.1 h
    cases hpure
    obtain ⟨old, -, -, rfl, rfl⟩ := updateStatus_answer hupdate
    refine ⟨hone, rfl, fun p hp => Or.inl ?_⟩
    cases hp
    exact itemAt_putInstance ..
  | insertInstance i =>
    cases h
    refine ⟨hone, rfl, fun p hp => Or.inl ?_⟩
    cases hp
    exact itemAt_putInstance ..
  | get | delete | getInstance =>
    obtain ⟨_, _, _, hpure⟩ := StoreM.bind_ok.1 h
    cases hpure
  | markDeleting | edit | failOn | clearFailures | keepOnDelete | clock => cases h

theorem version_of_not_stale {seen current : Metadata} (h : isStale seen current = false)
    (hseen : seen.resourceVersion = some v) : current.resourceVersion = some v := by
  unfold isStale at h
  rw [hseen, Option.isSome_some, Bool.true_and, decide_eq_false_iff_not, not_not] at h
  exact h.symm

/-- An update that carries a version is answered only if this is the version of what is stored. -/
theorem stored_of_carried (h : q.carried? = some v) {found : Option Item}
    (hrun : q.run c = .ok found c') :
    ∃ p x, q.place? = some p ∧ c.itemAt p = some x ∧ x.version = some v := by
  cases q with
  | update o =>
    obtain ⟨o', c₁, hupdate, -⟩ := StoreM.bind_ok.1 hrun
    obtain ⟨old, hold, hseen, -⟩ := update_answer hupdate
    refine ⟨_, .object old, rfl, congrArg (Option.map Item.object) hold, ?_⟩
    exact (version_of_not_stale hseen h)
  | updateInstance i =>
    obtain ⟨j, c₁, hupdate, -⟩ := StoreM.bind_ok.1 hrun
    obtain ⟨old, hold, hseen, -⟩ := updateInstance_answer hupdate
    exact ⟨_, .one old, rfl, congrArg (Option.map Item.one) hold, version_of_not_stale hseen h⟩
  | updateStatus i =>
    obtain ⟨j, c₁, hupdate, -⟩ := StoreM.bind_ok.1 hrun
    obtain ⟨old, hold, hseen, -⟩ := updateStatus_answer hupdate
    exact ⟨_, .one old, rfl, congrArg (Option.map Item.one) hold, version_of_not_stale hseen h⟩
  | _ => cases h

/-- A request that fails changes nothing that is stored. -/
theorem run_error {e : Error} (h : q.run c = .error e c') :
    c'.objects = c.objects ∧ c'.instances = c.instances := by
  cases q with
  | get key =>
    rcases StoreM.bind_error.1 h with hget | ⟨_, _, _, ⟨⟩⟩
    rw [get_error hget]
    exact ⟨rfl, rfl⟩
  | create o =>
    rcases StoreM.bind_error.1 h with hcreate | ⟨_, _, _, ⟨⟩⟩
    rw [create_error hcreate]
    exact ⟨rfl, rfl⟩
  | update o =>
    rcases StoreM.bind_error.1 h with hupdate | ⟨_, _, _, ⟨⟩⟩
    rw [update_error hupdate]
    exact ⟨rfl, rfl⟩
  | delete key =>
    rcases StoreM.bind_error.1 h with hdelete | ⟨_, _, _, ⟨⟩⟩
    rw [delete_error hdelete]
    exact ⟨rfl, rfl⟩
  | updateInstance i =>
    rcases StoreM.bind_error.1 h with hupdate | ⟨_, _, _, ⟨⟩⟩
    rw [updateInstance_error hupdate]
    exact ⟨rfl, rfl⟩
  | updateStatus i =>
    rcases StoreM.bind_error.1 h with hupdate | ⟨_, _, _, ⟨⟩⟩
    rw [updateStatus_error hupdate]
    exact ⟨rfl, rfl⟩
  | _ => cases h

/-! ## Histories of requests -/

/-- Whatever is stored has a version that has been given out, and objects are under their keys. -/
structure Dated (c : Cluster) : Prop where
  ordered : c.objects.Sorted
  keyed : c.Keyed
  versions : ∀ p x, c.itemAt p = some x → ∃ n, n ≤ c.version ∧ x.version = some (toString n)

theorem Dated.renews (h : c.Dated) (hc : Renews at? c c') : c'.Dated where
  ordered := hc.ordered
  keyed := hc.keyed h.keyed
  versions p x hx := by
    rcases hc.items p x hx with hold | ⟨-, -, hnew⟩
    · obtain ⟨n, hn, hversion⟩ := h.versions p x hold
      exact ⟨n, Nat.le_trans hn hc.version, hversion⟩
    · exact ⟨c'.version, Nat.le_refl _, hnew⟩

variable {requests past rest : List Request}

theorem version_injective {m n : Nat} (h : toString m = toString n) : m = n := by
  have htexts : String.ofList (Nat.toDigits 10 m) = String.ofList (Nat.toDigits 10 n) := h
  have hread := congrArg (Nat.ofDigitChars 10 · 0) (String.ofList_inj.1 htexts)
  simpa using hread

theorem served_concat (requests : List Request) (q : Request) :
    served (requests ++ [q]) = q.run.after (served requests) :=
  List.foldl_append

theorem served_dated (requests : List Request) : (served requests).Dated := by
  induction requests using List.reverseRecOn with
  | nil => exact ⟨List.Pairwise.nil, fun _ hrow => absurd hrow List.not_mem_nil, fun p _ hx => by
      cases p <;> cases hx⟩
  | append_singleton requests q ih =>
    rw [served_concat]
    exact ih.renews (run_renews ih.ordered q)

/-- Versions only go up. -/
theorem served_version_le (h : past <+: requests) :
    (served past).version ≤ (served requests).version := by
  obtain ⟨rest, rfl⟩ := h
  induction rest using List.reverseRecOn with
  | nil => exact Nat.le_of_eq (by rw [List.append_nil])
  | append_singleton rest q ih =>
    rw [← List.append_assoc, served_concat]
    exact Nat.le_trans ih (run_renews (served_dated _).ordered q).version

/-- What a request gives is the version given out last, which is new. -/
theorem Request.Gives.eq (h : q.Gives c p v) (hc : c.Dated) :
    c.version < (q.run.after c).version ∧ v = (q.run.after c).versionText := by
  obtain ⟨hplace, x, hversion, ⟨c', hrun⟩ | ⟨hx, hnew⟩⟩ := h
  · obtain ⟨hlt, hx, -⟩ := run_answers hrun
    rw [StoreM.after_ok hrun]
    exact ⟨hlt, Option.some.inj (hversion.symm.trans hx)⟩
  · obtain ⟨-, hlt, hx⟩ := ((run_renews hc.ordered q).items p x hx).resolve_left hnew
    exact ⟨hlt, Option.some.inj (hversion.symm.trans hx)⟩

/-- A version that was given once is not given by a later request. -/
theorem Request.Gives.not_again {q' : Request} {past' : List Request}
    (h : q.Gives (served past) p v) (hlater : past ++ [q] <+: past') :
    ¬ q'.Gives (served past') p' v := by
  intro h'
  -- Both texts are readings of one counter, which has gone up with either request.
  obtain ⟨hlt, hv⟩ := h.eq (served_dated past)
  obtain ⟨hlt', hv'⟩ := h'.eq (served_dated past')
  have hle := served_version_le hlater
  rw [served_concat] at hle
  have heq : (q.run.after (served past)).version = (q'.run.after (served past')).version :=
    version_injective (hv.symm.trans hv')
  omega

/-- A request that gives a version at a place does not leave there what was there. -/
theorem Request.Gives.ne (h : q.Gives c p v) (hc : c.Dated) (hx : c.itemAt p = some x) :
    (q.run.after c).itemAt p ≠ some x := by
  intro hx'
  obtain ⟨n, hn, hold⟩ := hc.versions p x hx
  obtain ⟨hplace, y, hversion, ⟨c', hrun⟩ | ⟨hy, hnew⟩⟩ := h
  · obtain ⟨hlt, hy, hplaces⟩ := run_answers hrun
    rw [StoreM.after_ok hrun] at hx'
    rcases hplaces p hplace with hleft | hleft
    · obtain rfl := Option.some.inj (hleft.symm.trans hx')
      have heq : n = c'.version := version_injective (Option.some.inj (hold.symm.trans hy))
      omega
    · cases hleft.symm.trans hx'
  · obtain rfl := Option.some.inj (hx'.symm.trans hy)
    exact hnew hx

/-- Whatever is stored was given its version by a request, and it has been there ever since. -/
theorem stored_since (h : (served requests).itemAt p = some x) :
    ∃ before q after v, requests = before ++ q :: after ∧ x.version = some v ∧
      q.Gives (served before) p v ∧
      Since (fun past => (served past).itemAt p = some x) before q after := by
  have hnil : ¬ (served []).itemAt p = some x := by
    intro hx
    cases p <;> cases hx
  obtain ⟨before, q, after, hcut, hsince⟩ :=
    exists_since (P := fun past => (served past).itemAt p = some x) hnil h
  have hfirst : (q.run.after (served before)).itemAt p = some x := by
    rw [← served_concat]
    exact hsince.first
  have hdated := served_dated before
  obtain ⟨hplace, -, hversion⟩ :=
    ((run_renews hdated.ordered q).items p x hfirst).resolve_left hsince.unmet
  exact ⟨before, q, after, _, hcut, hversion,
    ⟨hplace, x, hversion, Or.inr ⟨hfirst, hsince.unmet⟩⟩, hsince⟩

/-- Whatever requests have been served, in whatever order:

* An update that carries a version is answered only if some request gave this version at the place,
  what it wrote has been there unchanged ever since, and no request in between gave the place
  another version.
* No version is given twice.
* An object keeps its uid when it is replaced.
* Every object is under its own key.
* A request that fails changes nothing that is stored. -/
theorem no_lost_update (requests : List Request) :
    (∀ (q : Request) (v : String) found c', q.carried? = some v →
      q.run (served requests) = .ok found c' →
      ∃ p x before r after, q.place? = some p ∧ x.version = some v ∧
        requests = before ++ r :: after ∧ r.Gives (served before) p v ∧
        Since (fun past => (served past).itemAt p = some x) before r after ∧
        ∀ mid r' w, mid ++ [r'] <+: after → ¬ r'.Gives (served (before ++ r :: mid)) p w) ∧
    (∀ before q after before' q' after' p p' v, requests = before ++ q :: after →
      requests = before' ++ q' :: after' → q.Gives (served before) p v →
      q'.Gives (served before') p' v → before = before' ∧ p = p') ∧
    (∀ o o' c', (Store.update o : StoreM Cluster ManagedObject) (served requests) = .ok o' c' →
      ∃ old, Table.get? (served requests).objects o.key = some old ∧
        Table.get? c'.objects o.key = some o' ∧ o'.metadata.uid = old.metadata.uid) ∧
    (served requests).Keyed ∧
    ∀ (q : Request) e c', q.run (served requests) = .error e c' →
      c'.objects = (served requests).objects ∧ c'.instances = (served requests).instances := by
  refine ⟨?_, ?_, ?_, (served_dated requests).keyed, fun q e c' => run_error⟩
  · intro q v found c' hcarried hrun
    obtain ⟨p, x, hplace, hx, hversion⟩ := stored_of_carried hcarried hrun
    obtain ⟨before, r, after, w, hcut, hw, hgives, hsince⟩ := stored_since hx
    obtain rfl := Option.some.inj (hversion.symm.trans hw)
    refine ⟨p, x, before, r, after, hplace, hversion, hcut, hgives, hsince, ?_⟩
    intro mid r' w hmid hgives'
    -- What was read is there before and after `r'`, but a request that gives a version replaces it.
    have hmoment := hsince.holds mid ((List.prefix_append mid [r']).trans hmid)
    have hnext := hsince.holds (mid ++ [r']) hmid
    have hlist : before ++ r :: (mid ++ [r']) = before ++ r :: mid ++ [r'] := by simp
    rw [hlist, served_concat] at hnext
    exact hgives'.ne (served_dated _) hmoment hnext
  · intro before q after before' q' after' p p' v hcut hcut' hgives hgives'
    rcases moments_cases (hcut.symm.trans hcut') with ⟨rfl, rfl⟩ | hlater | hlater
    · exact ⟨rfl, Option.some.inj (hgives.1.symm.trans hgives'.1)⟩
    · exact absurd hgives' (hgives.not_again hlater)
    · exact absurd hgives (hgives'.not_again hlater)
  · intro o o' c' hupdate
    obtain ⟨old, hold, -, rfl, rfl⟩ := update_answer hupdate
    exact ⟨old, hold, Table.get?_insert_self .., rfl⟩

/-- Of two writers that have read the same object the second one has to read it again, also when it
was deleted and created anew in between. -/
example :
    let o : ManagedObject := ⟨.configMap, Kind.configMap.names, { ns := "ns", name := "a" }, []⟩
    let read : ManagedObject := ((served []).insert o).1
    let outcome (requests : List Request) :=
      ((Request.update read).run.answer (served requests)).toBool
    outcome [.insert o] = true ∧ outcome [.insert o, .update read] = false ∧
      outcome [.insert o, .delete o.key, .create o] = false := by
  decide +kernel

end NodeFeatureOperator.Cluster
