import NodeFeatureOperator.Cluster
import NodeFeatureOperator.Proofs.Effect
import NodeFeatureOperator.Proofs.Table

/-!
# What calls on objects do to a cluster

Three relations between a cluster and a later one say what the calls in between did to objects.

* `Cluster.Within K`: only objects under keys of `K` differ; instances, injected failures and the
  clock are the same.
* `Cluster.Removed K`: beyond that, nothing is there that was not there before.
* `Cluster.Touches K`: `Within K`, provided that every object was under its own key. Replacing an
  object needs this, since the object is stored under the key that it names itself.

All three are preorders, so that they hold of a sequence of calls if they hold of every call.
-/

namespace NodeFeatureOperator

/-! ## The order of keys -/

theorem Kind.index_injective {k l : Kind} (h : k.index = l.index) : k = l := by
  cases k <;> cases l <;> first | rfl | cases h

theorem Key.compareNs_eq :
    Key.compareNs = (compare : Option String → Option String → Ordering) := by
  funext a b
  cases a <;> cases b <;> rfl

theorem Key.compare_eq : (compare : Key → Key → Ordering) =
    compareLex (compareLex (compareOn (·.kind.index)) (compareOn Key.ns)) (compareOn Key.name) := by
  funext a b
  change ((compare a.kind.index b.kind.index).then (Key.compareNs a.ns b.ns)).then _ = _
  rw [Key.compareNs_eq]
  rfl

instance : Std.TransOrd Key := by
  change Std.TransCmp (compare : Key → Key → Ordering)
  rw [Key.compare_eq]
  infer_instance

instance : Std.LawfulEqOrd Key where
  eq_of_compare {a b} h := by
    obtain ⟨kind, ns, name⟩ := a
    obtain ⟨kind', ns', name'⟩ := b
    have hthen : ((compare kind.index kind'.index).then (Key.compareNs ns ns')).then
        (compare name name') = .eq := h
    rw [Ordering.then_eq_eq, Ordering.then_eq_eq, Key.compareNs_eq] at hthen
    obtain ⟨⟨hkind, hns⟩, hname⟩ := hthen
    rw [Kind.index_injective (Std.LawfulEqCmp.eq_of_compare hkind),
      Std.LawfulEqCmp.eq_of_compare hns, Std.LawfulEqCmp.eq_of_compare hname]

namespace Cluster

open StoreM (Keeps)

/-- Every object is stored under its own key. -/
def Keyed (c : Cluster) : Prop := ∀ row ∈ c.objects, row.2.key = row.1

/-- Every instance is stored under its identity. -/
def Named (c : Cluster) : Prop := ∀ id i, Table.get? c.instances id = some i → i.id = id

/-- No call is made to fail, and every deletion removes its object. -/
structure Quiet (c : Cluster) : Prop where
  failures : c.failures = []
  sticky : c.sticky = []

/-- The second cluster differs from the first at most in the objects under keys of `K`, in the
record of calls and events, in the versions given out and in the time that has passed. -/
structure Within (K : Key → Prop) (c c' : Cluster) : Prop where
  objects : ∀ k, ¬ K k → Table.get? c'.objects k = Table.get? c.objects k
  keyed : c.Keyed → c'.Keyed
  ordered : c.objects.Sorted → c'.objects.Sorted
  instances : c'.instances = c.instances
  failures : c'.failures = c.failures
  sticky : c'.sticky = c.sticky
  step : c'.step = c.step

/-- `Within K`, where objects only go. -/
structure Removed (K : Key → Prop) (c c' : Cluster) : Prop extends Within K c c' where
  only : ∀ k o, Table.get? c'.objects k = some o → Table.get? c.objects k = some o

/-- `Within K`, if every object was under its own key. -/
def Touches (K : Key → Prop) (c c' : Cluster) : Prop := c.Keyed → Within K c c'

variable {K L : Key → Prop} {c c' c'' : Cluster}

theorem Keyed.key_of_get? (h : c.Keyed) {k : Key} {o : ManagedObject}
    (ho : Table.get? c.objects k = some o) : o.key = k :=
  h _ (Table.mem_of_get? ho)

theorem Keyed.insert (h : c.Keyed) (o : ManagedObject) :
    ∀ row ∈ Table.insert c.objects o.key o, row.2.key = row.1 := by
  intro row hrow
  rcases Table.mem_insert hrow with rfl | hrow
  · rfl
  · exact h row hrow

/-! ## The relations are preorders -/

namespace Within

theorem refl (c : Cluster) : Within K c c :=
  ⟨fun _ _ => rfl, id, id, rfl, rfl, rfl, rfl⟩

theorem trans (h : Within K c c') (h' : Within K c' c'') : Within K c c'' where
  objects k hk := (h'.objects k hk).trans (h.objects k hk)
  keyed hc := h'.keyed (h.keyed hc)
  ordered hc := h'.ordered (h.ordered hc)
  instances := h'.instances.trans h.instances
  failures := h'.failures.trans h.failures
  sticky := h'.sticky.trans h.sticky
  step := h'.step.trans h.step

theorem mono (hKL : ∀ k, K k → L k) (h : Within K c c') : Within L c c' :=
  { h with objects := fun k hk => h.objects k fun hK => hk (hKL k hK) }

theorem quiet (h : Within K c c') (hc : c.Quiet) : c'.Quiet :=
  ⟨h.failures.trans hc.failures, h.sticky.trans hc.sticky⟩

theorem touches (h : Within K c c') : Touches K c c' := fun _ => h

/-- Nothing but the objects was touched, and they are as they were. -/
theorem of_objects_eq (hobjects : c'.objects = c.objects) (hinstances : c'.instances = c.instances)
    (hfailures : c'.failures = c.failures) (hsticky : c'.sticky = c.sticky)
    (hstep : c'.step = c.step) : Within K c c' where
  objects k _ := by rw [hobjects]
  keyed hc := by
    unfold Keyed
    rw [hobjects]
    exact hc
  ordered hc := by rwa [hobjects]
  instances := hinstances
  failures := hfailures
  sticky := hsticky
  step := hstep

end Within

instance : IsPreorder Cluster (Within K) where
  refl := Within.refl
  trans _ _ _ := Within.trans

namespace Removed

theorem refl (c : Cluster) : Removed K c c :=
  ⟨Within.refl c, fun _ _ => id⟩

theorem trans (h : Removed K c c') (h' : Removed K c' c'') : Removed K c c'' :=
  ⟨h.toWithin.trans h'.toWithin, fun k o ho => h.only k o (h'.only k o ho)⟩

theorem mono (hKL : ∀ k, K k → L k) (h : Removed K c c') : Removed L c c' :=
  ⟨h.toWithin.mono hKL, h.only⟩

/-- What was not there is not there. -/
theorem absent (h : Removed K c c') {k : Key} (hk : Table.get? c.objects k = none) :
    Table.get? c'.objects k = none := by
  cases ho : Table.get? c'.objects k with
  | none => rfl
  | some o =>
    have := h.only k o ho
    rw [hk] at this
    cases this

theorem of_objects_eq (hobjects : c'.objects = c.objects) (hinstances : c'.instances = c.instances)
    (hfailures : c'.failures = c.failures) (hsticky : c'.sticky = c.sticky)
    (hstep : c'.step = c.step) : Removed K c c' :=
  ⟨.of_objects_eq hobjects hinstances hfailures hsticky hstep,
    fun _ _ ho => by rwa [hobjects] at ho⟩

end Removed

instance : IsPreorder Cluster (Removed K) where
  refl := Removed.refl
  trans _ _ _ := Removed.trans

namespace Touches

theorem trans (h : Touches K c c') (h' : Touches K c' c'') : Touches K c c'' :=
  fun hc => (h hc).trans (h' ((h hc).keyed hc))

theorem mono (hKL : ∀ k, K k → L k) (h : Touches K c c') : Touches L c c' :=
  fun hc => (h hc).mono hKL

end Touches

instance : IsPreorder Cluster (Touches K) where
  refl c := (Within.refl c).touches
  trans _ _ _ := Touches.trans

/-! ## The calls -/

theorem injected?_congr (h : c'.failures = c.failures) (verb : Verb) (key : Key) :
    c'.injected? verb key = c.injected? verb key := by
  unfold injected?
  rw [h]

theorem injected?_of_clear (h : c.failures = []) (verb : Verb) (key : Key) :
    c.injected? verb key = none := by
  unfold injected?
  rw [h]
  rfl

theorem injected?_of_quiet (h : c.Quiet) (verb : Verb) (key : Key) :
    c.injected? verb key = none :=
  injected?_of_clear h.failures verb key

theorem enter_of_injected {verb : Verb} {key : Key} {e : Error}
    (h : c.injected? verb key = some e) :
    enter verb key c = .error e (c.record (.object verb key)) := by
  unfold enter
  simp only [show (c.record (.object verb key)).injected? verb key = some e from h]

theorem enter_of_clear {verb : Verb} {key : Key} (h : c.injected? verb key = none) :
    enter verb key c = .ok () (c.record (.object verb key)) := by
  unfold enter
  simp only [show (c.record (.object verb key)).injected? verb key = none from h]

/-- What comes of a call that enters the cluster first. -/
theorem enter_bind_run {α : Type} (verb : Verb) (key : Key) (f : Unit → StoreM Cluster α)
    (c : Cluster) :
    (enter verb key >>= f) c =
      match c.injected? verb key with
      | some e => .error e (c.record (.object verb key))
      | none => f () (c.record (.object verb key)) := by
  cases h : c.injected? verb key with
  | some e => exact StoreM.bind_of_error (enter_of_injected h)
  | none => exact StoreM.bind_of_ok (enter_of_clear h)

theorem get_run (key : Key) (c : Cluster) :
    (Store.get key : StoreM Cluster (Option ManagedObject)) c =
      match c.injected? .get key with
      | some e => .error e (c.record (.object .get key))
      | none => .ok (Table.get? c.objects key) (c.record (.object .get key)) :=
  enter_bind_run ..

theorem get_ok {key : Key} {found : Option ManagedObject}
    (h : (Store.get key : StoreM Cluster (Option ManagedObject)) c = .ok found c') :
    found = Table.get? c.objects key ∧ c' = c.record (.object .get key) := by
  rw [get_run] at h
  cases hf : c.injected? .get key with
  | some e => simp [hf] at h
  | none =>
    rw [hf] at h
    cases h
    exact ⟨rfl, rfl⟩

theorem get_of_clear (h : c.failures = []) (key : Key) :
    (Store.get key : StoreM Cluster (Option ManagedObject)) c =
      .ok (Table.get? c.objects key) (c.record (.object .get key)) := by
  rw [get_run, injected?_of_clear h]

/-- An object with the version that was given out last, and with a uid. -/
def stamp (c : Cluster) (uid : Option String) (o : ManagedObject) : ManagedObject :=
  o.mapMetadata fun m => { m with resourceVersion := some c.versionText, uid }

/-- The cluster with an object under its key. -/
def put (c : Cluster) (o : ManagedObject) : Cluster :=
  { c with objects := Table.insert c.objects o.key o }

theorem create_run (o : ManagedObject) (c : Cluster) :
    (Store.create o : StoreM Cluster ManagedObject) c =
      match c.injected? .create o.key with
      | some e => .error e (c.record (.object .create o.key))
      | none =>
        if Table.contains c.objects o.key then
          .error (.object "create" o.key (refusal 409 "AlreadyExists"))
            (c.record (.object .create o.key))
        else
          let c' := (c.record (.object .create o.key)).bump
          .ok (c'.stamp (some c'.freshUid) o) (c'.put (c'.stamp (some c'.freshUid) o)) := by
  refine (enter_bind_run ..).trans ?_
  cases c.injected? .create o.key with
  | some e => rfl
  | none =>
    change (if Table.contains c.objects o.key then _ else _ : StoreM Cluster ManagedObject) _ = _
    by_cases h : Table.contains c.objects o.key = true
    · simp only [h, if_true]
      rfl
    · simp only [h]
      rfl

/-- What was created is there, with a version and a uid of its own. -/
theorem create_ok {o o' : ManagedObject}
    (h : (Store.create o : StoreM Cluster ManagedObject) c = .ok o' c') :
    Table.get? c'.objects o.key = some o' ∧ ∃ (c₁ : Cluster) (uid : _), o' = c₁.stamp uid o := by
  rw [create_run] at h
  cases hf : c.injected? .create o.key with
  | some e => simp [hf] at h
  | none =>
    rw [hf] at h
    dsimp only at h
    split at h
    · cases h
    · cases h
      exact ⟨Table.get?_insert_self .., _, _, rfl⟩

theorem create_error {o : ManagedObject} {e : Error}
    (h : (Store.create o : StoreM Cluster ManagedObject) c = .error e c') :
    c' = c.record (.object .create o.key) := by
  rw [create_run] at h
  cases hf : c.injected? .create o.key with
  | some e =>
    rw [hf] at h
    cases h
    rfl
  | none =>
    rw [hf] at h
    dsimp only at h
    split at h
    · cases h
      rfl
    · cases h

theorem create_of_clear (h : c.failures = []) {o : ManagedObject}
    (ho : Table.get? c.objects o.key = none) :
    ∃ o' c', (Store.create o : StoreM Cluster ManagedObject) c = .ok o' c' := by
  rw [create_run, injected?_of_clear h]
  simp [Table.contains_eq_false_iff.2 ho]

theorem update_run (o : ManagedObject) (c : Cluster) :
    (Store.update o : StoreM Cluster ManagedObject) c =
      match c.injected? .update o.key with
      | some e => .error e (c.record (.object .update o.key))
      | none =>
        match Table.get? c.objects o.key with
        | none =>
          .error (.object "update" o.key (refusal 404 "NotFound"))
            (c.record (.object .update o.key))
        | some old =>
          if isStale o.metadata old.metadata then
            .error (.object "update" o.key (refusal 409 "Conflict"))
              (c.record (.object .update o.key))
          else
            let c' := (c.record (.object .update o.key)).bump
            .ok (c'.stamp old.metadata.uid o) (c'.put (c'.stamp old.metadata.uid o)) := by
  refine (enter_bind_run ..).trans ?_
  cases c.injected? .update o.key with
  | some e => rfl
  | none =>
    change (match Table.get? c.objects o.key with
      | none => _
      | some current => _ : StoreM Cluster ManagedObject) _ = _
    cases Table.get? c.objects o.key with
    | none => rfl
    | some old =>
      change (if isStale o.metadata old.metadata then _ else _ : StoreM Cluster ManagedObject) _ = _
      by_cases h : isStale o.metadata old.metadata = true
      · simp only [h, if_true]
        rfl
      · simp only [h]
        rfl

/-- What was replaced is there, with a version of its own. -/
theorem update_ok {o o' : ManagedObject}
    (h : (Store.update o : StoreM Cluster ManagedObject) c = .ok o' c') :
    Table.get? c'.objects o.key = some o' ∧ ∃ (c₁ : Cluster) (uid : _), o' = c₁.stamp uid o := by
  rw [update_run] at h
  cases hf : c.injected? .update o.key with
  | some e => simp [hf] at h
  | none =>
    rw [hf] at h
    cases ho : Table.get? c.objects o.key with
    | none => simp [ho] at h
    | some old =>
      rw [ho] at h
      dsimp only at h
      split at h
      · cases h
      · cases h
        exact ⟨Table.get?_insert_self .., _, _, rfl⟩

theorem update_error {o : ManagedObject} {e : Error}
    (h : (Store.update o : StoreM Cluster ManagedObject) c = .error e c') :
    c' = c.record (.object .update o.key) := by
  rw [update_run] at h
  cases hf : c.injected? .update o.key with
  | some e =>
    rw [hf] at h
    cases h
    rfl
  | none =>
    rw [hf] at h
    cases ho : Table.get? c.objects o.key with
    | none =>
      rw [ho] at h
      cases h
      rfl
    | some old =>
      rw [ho] at h
      dsimp only at h
      split at h
      · cases h
        rfl
      · cases h

theorem delete_run (key : Key) (c : Cluster) :
    (Store.delete key : StoreM Cluster Unit) c =
      match c.injected? .delete key with
      | some e => .error e (c.record (.object .delete key))
      | none =>
        if Table.contains c.objects key then
          .ok () { c.record (.object .delete key) with
            objects := if key ∈ c.sticky then c.objects else Table.erase c.objects key }
        else
          .error (.object "delete" key (refusal 404 "NotFound"))
            (c.record (.object .delete key)) := by
  refine (enter_bind_run ..).trans ?_
  cases c.injected? .delete key with
  | some e => rfl
  | none =>
    change (if (!Table.contains c.objects key) = true then _ else _ : StoreM Cluster Unit) _ = _
    by_cases h : Table.contains c.objects key = true
    · simp only [h, Bool.not_true, Bool.false_eq_true, if_false, if_true]
      change (if key ∉ c.sticky then _ else _ : StoreM Cluster Unit) _ = _
      by_cases hs : key ∈ c.sticky
      · simp only [hs, not_true_eq_false, if_false, if_true]
        rfl
      · simp only [hs, not_false_eq_true, if_true, if_false]
        rfl
    · simp only [Bool.not_eq_true] at h
      simp only [h, Bool.not_false, Bool.false_eq_true, if_false, if_true]
      rfl

/-! ## What the calls leave alone -/

theorem removed_record (c : Cluster) (call : Call) : Removed K c (c.record call) :=
  .of_objects_eq rfl rfl rfl rfl rfl

theorem removed_erase (c : Cluster) (key : Key) :
    Removed (· = key) c { c with objects := Table.erase c.objects key } where
  objects k hk := by
    rw [Table.get?_erase]
    exact if_neg fun h => hk h.symm
  keyed hc := fun row hrow => hc row (List.mem_filter.1 hrow).1
  ordered hc := hc.erase key
  instances := rfl
  failures := rfl
  sticky := rfl
  step := rfl
  only k o ho := by
    rw [Table.get?_erase] at ho
    split at ho
    · cases ho
    · exact ho

theorem within_put (c : Cluster) (uid : Option String) (o : ManagedObject) :
    Within (· = o.key) c (c.put (c.stamp uid o)) where
  objects k hk := by
    unfold put
    rw [Table.get?_insert]
    exact if_neg fun h => hk h.symm
  keyed hc := Keyed.insert hc (c.stamp uid o)
  ordered hc := hc.insert _ _
  instances := rfl
  failures := rfl
  sticky := rfl
  step := rfl

/-- A look-up leaves nothing behind but the call on record. -/
theorem get_after (key : Key) (c : Cluster) :
    (Store.get key : StoreM Cluster (Option ManagedObject)).after c =
      c.record (.object .get key) := by
  unfold StoreM.after
  rw [get_run]
  cases c.injected? .get key <;> rfl

/-- A deletion takes the object away or leaves everything as it is. -/
theorem delete_after (key : Key) (c : Cluster) :
    let called := c.record (.object .delete key)
    (Store.delete key : StoreM Cluster Unit).after c = called ∨
      (Store.delete key : StoreM Cluster Unit).after c =
        { called with objects := Table.erase called.objects key } := by
  intro called
  unfold StoreM.after
  rw [delete_run]
  cases c.injected? .delete key with
  | some e => exact Or.inl rfl
  | none =>
    by_cases hfound : Table.contains c.objects key = true
    · by_cases hsticky : key ∈ c.sticky
      · simp only [hfound, hsticky, if_true]
        exact Or.inl rfl
      · simp only [hfound, hsticky, if_true, if_false]
        exact Or.inr rfl
    · simp only [hfound]
      exact Or.inl rfl

theorem get_removed (key : Key) :
    Keeps (Removed K) (Store.get key : StoreM Cluster (Option ManagedObject)) := by
  intro c
  rw [get_after]
  exact removed_record c _

theorem delete_removed (key : Key) :
    Keeps (Removed (· = key)) (Store.delete key : StoreM Cluster Unit) := by
  intro c
  have hrecord := removed_record (K := (· = key)) c (.object .delete key)
  rcases delete_after key c with hafter | hafter
  · rw [hafter]
    exact hrecord
  · rw [hafter]
    exact hrecord.trans (removed_erase _ key)

/-- A version more makes no difference to the objects. -/
theorem removed_bump (c : Cluster) : Removed K c c.bump := .of_objects_eq rfl rfl rfl rfl rfl

/-- A creation leaves the object behind if it succeeds, and nothing if it fails. -/
theorem create_after (o : ManagedObject) (c : Cluster) :
    let called := c.record (.object .create o.key)
    (Store.create o : StoreM Cluster ManagedObject).after c = called ∨
      ∃ uid, (Store.create o : StoreM Cluster ManagedObject).after c =
        called.bump.put (called.bump.stamp uid o) := by
  intro called
  unfold StoreM.after
  rw [create_run]
  cases c.injected? .create o.key with
  | some e => exact Or.inl rfl
  | none =>
    by_cases h : Table.contains c.objects o.key = true
    · simp only [h, if_true]
      exact Or.inl rfl
    · simp only [h, Bool.false_eq_true, if_false]
      exact Or.inr ⟨_, rfl⟩

/-- An update leaves the object behind if it succeeds, and nothing if it fails. -/
theorem update_after (o : ManagedObject) (c : Cluster) :
    let called := c.record (.object .update o.key)
    (Store.update o : StoreM Cluster ManagedObject).after c = called ∨
      ∃ uid, (Store.update o : StoreM Cluster ManagedObject).after c =
        called.bump.put (called.bump.stamp uid o) := by
  intro called
  unfold StoreM.after
  rw [update_run]
  cases c.injected? .update o.key with
  | some e => exact Or.inl rfl
  | none =>
    cases Table.get? c.objects o.key with
    | none => exact Or.inl rfl
    | some old =>
      by_cases h : isStale o.metadata old.metadata = true
      · simp only [h, if_true]
        exact Or.inl rfl
      · simp only [h, Bool.false_eq_true, if_false]
        exact Or.inr ⟨_, rfl⟩

theorem create_within (o : ManagedObject) :
    Keeps (Within (· = o.key)) (Store.create o : StoreM Cluster ManagedObject) := by
  intro c
  have hrecord := (removed_record (K := (· = o.key)) c (.object .create o.key)).toWithin
  rcases create_after o c with h | ⟨uid, h⟩
  · rwa [h]
  · rw [h]
    exact (hrecord.trans (removed_bump _).toWithin).trans (within_put ..)

theorem update_within (o : ManagedObject) :
    Keeps (Within (· = o.key)) (Store.update o : StoreM Cluster ManagedObject) := by
  intro c
  have hrecord := (removed_record (K := (· = o.key)) c (.object .update o.key)).toWithin
  rcases update_after o c with h | ⟨uid, h⟩
  · rwa [h]
  · rw [h]
    exact (hrecord.trans (removed_bump _).toWithin).trans (within_put ..)

theorem publish_removed (i : Instance) (e : Event) :
    Keeps (Removed K) (Store.publish i e : StoreM Cluster Unit) := by
  intro c
  exact .of_objects_eq rfl rfl rfl rfl rfl

theorem pause_removed (d : Duration) : Keeps (Removed K) (Store.pause d : StoreM Cluster Unit) := by
  intro c
  exact .of_objects_eq rfl rfl rfl rfl rfl

end Cluster

end NodeFeatureOperator
