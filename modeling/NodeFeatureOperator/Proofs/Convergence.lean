import NodeFeatureOperator.Proofs.Cluster.Objects
import NodeFeatureOperator.Proofs.Identity

/-!
# Convergence of single objects on a cluster

Bringing a resource to its desired state touches the object under the key of the resource and
nothing else (`Pass.apply_touches`), since all that is written there stands for the resource.
Deleting only removes (`deleteAll_removed`), and it succeeds only once nothing is left under the
keys (`deleteAll_ok`), whatever fails and whatever survives in between. On a quiet cluster deletions
and the creation of what is missing always succeed.
-/

namespace NodeFeatureOperator

open Cluster StoreM

variable {K : Key → Prop} {c c' : Cluster} {key : Key} {keys : List Key}

theorem notify_removed (i : Instance) (action : String) (key : Key) :
    Keeps (Removed K) (notify i action key : StoreM Cluster Unit) :=
  (publish_removed _ _).bestEffort

theorem notify_ok (i : Instance) (action : String) (key : Key) (c : Cluster) :
    ∃ c', (notify i action key : StoreM Cluster Unit) c = .ok () c' ∧ c'.objects = c.objects :=
  ⟨_, bestEffort_run _ _, rfl⟩

/-- What is stored for a resource is of its kind. -/
theorem Cluster.Keyed.kind_of_get? (h : c.Keyed) {r : Resource} {i : Instance} {o : ManagedObject}
    (ho : Table.get? c.objects (r.key i) = some o) : o.kind = r.kind :=
  (congrArg Key.kind (h.key_of_get? ho)).trans (r.key_kind i)

/-! ## Creating and updating -/

/-- The object is as the operator creates it under a key: of the kind of the key, without a status,
and without an owner if it belongs to the whole cluster. -/
structure ManagedObject.Fresh (k : Key) (o : ManagedObject) : Prop where
  kind : o.kind = k.kind
  noStatus : Table.get? o.body "status" = none
  unowned : k.kind.clusterScoped = true → o.metadata.ownerReferences = none

namespace Pass

variable {p : Pass} {r : Resource}

/-- Whatever the templates are, only objects are touched. -/
theorem apply_within (p : Pass) (r : Resource) :
    Keeps (Within fun _ => True) (p.apply r : StoreM Cluster Applied) := by
  have hnotify (action : String) (key : Key) : Keeps (Within fun _ => True)
      (notify p.subject action key : StoreM Cluster Unit) :=
    (notify_removed _ _ _).mono fun _ _ => Removed.toWithin
  unfold Pass.apply
  refine (Keeps.ofExcept _).bind fun wished => ?_
  refine ((get_removed _).mono fun _ _ => Removed.toWithin).bind fun found => ?_
  cases found with
  | none =>
    refine (Keeps.ofExcept _).bind fun o => ?_
    refine ((create_within o).mono fun _ _ => Within.mono fun _ _ => trivial).bind fun _ => ?_
    exact (hnotify _ _).bind fun _ => Keeps.pure _
  | some live =>
    refine (Keeps.ofExcept _).bind fun o => Keeps.ite (Keeps.pure _) ?_
    refine ((update_within o).mono fun _ _ => Within.mono fun _ _ => trivial).bind fun _ => ?_
    exact (hnotify _ _).bind fun _ => Keeps.pure _

theorem applyAll_within (p : Pass) (rs : List Resource) :
    Keeps (Within fun _ => True) (p.applyAll rs : StoreM Cluster Unit) := by
  induction rs with
  | nil => exact Keeps.pure _
  | cons r rs ih => exact (p.apply_within r).bind fun _ => ih

/-- Applying a resource keeps to what looking at its key and writing under it keeps to. -/
theorem apply_keeps {R : Cluster → Cluster → Prop} [IsPreorder Cluster R] (h : p.templates.Sound)
    (hget : Keeps R (Store.get (p.keyOf r) : StoreM Cluster (Option ManagedObject)))
    (hcreate : ∀ o : ManagedObject, o.key = p.keyOf r →
      Keeps R (Store.create o : StoreM Cluster ManagedObject))
    (hupdate : ∀ o : ManagedObject, o.key = p.keyOf r →
      Keeps R (Store.update o : StoreM Cluster ManagedObject))
    (hpublish : ∀ e, Keeps R (Store.publish p.subject e : StoreM Cluster Unit)) (hkeyed : c.Keyed) :
    R c ((p.apply r : StoreM Cluster Applied).after c) := by
  have hnotify (action : String) :
      Keeps R (notify p.subject action (p.keyOf r) : StoreM Cluster Unit) :=
    (hpublish _).bestEffort
  unfold Pass.apply
  refine rel_after_bind (Keeps.ofExcept _ c) fun wished c₁ hwished => ?_
  obtain ⟨hrender, rfl⟩ := ofExcept_ok_iff.1 hwished
  obtain ⟨t, ht, rfl⟩ := Registry.render_ok hrender
  have htemplate := h r t ht
  refine rel_after_bind (hget c₁) fun found c₂ hfound => ?_
  cases found with
  | none =>
    refine rel_after_bind (Keeps.ofExcept _ c₂) fun o c₃ hown => ?_
    obtain ⟨hown, -⟩ := ofExcept_ok_iff.1 hown
    have hkey : o.key = p.keyOf r := ((htemplate.desired ..).own hown).key_eq
    exact rel_after_bind (hcreate o hkey c₃) fun _ c₄ _ =>
      (hnotify _).bind (fun _ => Keeps.pure _) c₄
  | some live =>
    have hlive : live.kind = r.kind := hkeyed.kind_of_get? (get_ok hfound).1.symm
    refine rel_after_bind (Keeps.ofExcept _ c₂) fun o c₃ hconverged => ?_
    obtain ⟨hconverged, -⟩ := ofExcept_ok_iff.1 hconverged
    have hkey : o.key = p.keyOf r :=
      ((htemplate.desired ..).converged (htemplate.desired_sorted ..) hlive hconverged).key_eq
    split
    · exact refl_of R c₃
    · exact rel_after_bind (hupdate o hkey c₃) fun _ c₄ _ =>
        (hnotify _).bind (fun _ => Keeps.pure _) c₄

/-- What is created or updated for a resource is stored under its key. -/
theorem apply_touches (h : p.templates.Sound) (r : Resource) :
    Keeps (Touches (· = p.keyOf r)) (p.apply r : StoreM Cluster Applied) := by
  intro c hkeyed
  refine apply_keeps (R := Within (· = p.keyOf r)) h ?_ (fun o ho => ?_) (fun o ho => ?_)
    (fun e => (publish_removed _ _).mono fun _ _ => Removed.toWithin) hkeyed
  · exact (get_removed _).mono fun _ _ => Removed.toWithin
  · rw [← ho]
    exact create_within o
  · rw [← ho]
    exact update_within o

/-- An application that fails has done nothing but call. -/
theorem apply_failed_keeps {R : Cluster → Cluster → Prop} [IsPreorder Cluster R]
    (hrecord : ∀ c call, R c (Cluster.record c call)) {e : Error}
    (h : (p.apply r : StoreM Cluster Applied) c = .error e c') : R c c' := by
  have hget : Keeps R (Store.get (p.keyOf r) : StoreM Cluster (Option ManagedObject)) := by
    intro c
    unfold StoreM.after
    rw [get_run]
    cases c.injected? .get (p.keyOf r) <;> exact hrecord ..
  unfold Pass.apply at h
  rcases bind_error.1 h with herror | ⟨wished, c₁, hwished, hfind⟩
  · exact (Keeps.ofExcept _).of_error herror
  obtain ⟨-, rfl⟩ := ofExcept_ok_iff.1 hwished
  rcases bind_error.1 hfind with herror | ⟨found, c₂, hfound, hwrite⟩
  · exact hget.of_error herror
  have hread : R c₁ c₂ := hget.of_ok hfound
  cases found with
  | none =>
    rcases bind_error.1 hwrite with herror | ⟨o, c₃, hown, hcreate⟩
    · exact trans_of R hread ((Keeps.ofExcept _).of_error herror)
    obtain ⟨-, rfl⟩ := ofExcept_ok_iff.1 hown
    rcases bind_error.1 hcreate with herror | ⟨_, c₄, -, hnotify⟩
    · rw [create_error herror]
      exact trans_of R hread (hrecord ..)
    · cases (bind_of_ok (bestEffort_run _ c₄)).symm.trans hnotify
  | some live =>
    rcases bind_error.1 hwrite with herror | ⟨o, c₃, hconverged, hupdate⟩
    · exact trans_of R hread ((Keeps.ofExcept _).of_error herror)
    obtain ⟨-, rfl⟩ := ofExcept_ok_iff.1 hconverged
    split at hupdate
    · cases hupdate
    · rcases bind_error.1 hupdate with herror | ⟨_, c₄, -, hnotify⟩
      · rw [update_error herror]
        exact trans_of R hread (hrecord ..)
      · cases (bind_of_ok (bestEffort_run _ c₄)).symm.trans hnotify

/-- An application that fails has written nothing. -/
theorem apply_failed {e : Error} (h : (p.apply r : StoreM Cluster Applied) c = .error e c') :
    Removed K c c' :=
  apply_failed_keeps removed_record h

/-- For an instance that cannot own, nothing is created in its namespace. -/
theorem apply_of_no_owner (h : p.templates.Sound) (howner : p.subject.controllerReference? = none)
    (hscope : r.kind.clusterScoped = false) (hc : Table.get? c.objects (p.keyOf r) = none) :
    ∃ e c', (p.apply r : StoreM Cluster Applied) c = .error e c' := by
  cases hrun : (p.apply r : StoreM Cluster Applied) c with
  | error e c' => exact ⟨e, c', rfl⟩
  | ok a c' =>
    unfold Pass.apply at hrun
    obtain ⟨wished, c₁, hwished, hrun⟩ := bind_ok.1 hrun
    obtain ⟨hrender, rfl⟩ := ofExcept_ok_iff.1 hwished
    obtain ⟨t, ht, rfl⟩ := Registry.render_ok hrender
    obtain ⟨found, c₂, hget, hrun⟩ := bind_ok.1 hrun
    obtain rfl : found = none := (get_ok hget).1.trans hc
    obtain ⟨o, c₃, howned, -⟩ := bind_ok.1 hrun
    have hkind := ((h r t ht).desired p.subject p.image).kind
    have hfails := (ofExcept_ok_iff.1 howned).1
    rw [ManagedObject.own_of_no_owner howner (hkind ▸ hscope)] at hfails
    cases hfails

theorem applyAll_eq (p : Pass) (rs : List Resource) :
    (p.applyAll rs : StoreM Cluster Unit) = each p.apply rs := by
  induction rs with
  | nil => rfl
  | cons r rs ih => exact congrArg (p.apply r >>= fun _ => ·) ih

theorem applyAll_append (p : Pass) (rs rs' : List Resource) :
    (p.applyAll (rs ++ rs') : StoreM Cluster Unit) = p.applyAll rs >>= fun _ => p.applyAll rs' := by
  rw [applyAll_eq, applyAll_eq, applyAll_eq, each_append]

/-- Applying resources keeps to what applying each of them keeps to. -/
theorem applyAll_keeps {R : Cluster → Cluster → Prop} [IsPreorder Cluster R] {rs : List Resource}
    (happly : ∀ r ∈ rs, ∀ c : Cluster, c.Keyed →
      R c ((p.apply r : StoreM Cluster Applied).after c)) (hkeyed : c.Keyed) :
    R c ((p.applyAll rs : StoreM Cluster Unit).after c) := by
  induction rs generalizing c with
  | nil => exact refl_of R c
  | cons r rs ih =>
    refine rel_after_bind (happly r List.mem_cons_self c hkeyed) fun _ c' hrun => ?_
    exact ih (fun r' hr' => happly r' (List.mem_cons_of_mem _ hr'))
      (((p.apply_within r).of_ok hrun).keyed hkeyed)

theorem applyAll_touches (h : p.templates.Sound) (rs : List Resource) :
    Keeps (Touches (· ∈ rs.map p.keyOf)) (p.applyAll rs : StoreM Cluster Unit) := by
  induction rs with
  | nil => exact Keeps.pure _
  | cons r rs ih =>
    refine Keeps.bind ((p.apply_touches h r).mono fun _ _ => Touches.mono ?_) fun _ =>
      ih.mono fun _ _ => Touches.mono ?_
    · rintro k rfl
      exact List.mem_cons_self
    · intro k hk
      exact List.mem_cons_of_mem _ hk

/-! ### Creating what is missing -/

/-- What is stored under a key, if there is anything, is as it was created. -/
def FreshAt (c : Cluster) (k : Key) : Prop := ∀ o, Table.get? c.objects k = some o → o.Fresh k

theorem freshAt_of_absent {k : Key} (h : Table.get? c.objects k = none) : FreshAt c k := by
  intro o ho
  rw [h] at ho
  cases ho

theorem FreshAt.removed {k : Key} (h : FreshAt c k) (hc : Removed K c c') : FreshAt c' k :=
  fun o ho => h o (hc.only k o ho)

/-- What is new under the key of a resource comes from its template. -/
theorem apply_fresh (h : p.templates.Sound) (hc : Table.get? c.objects (p.keyOf r) = none) :
    FreshAt ((p.apply r : StoreM Cluster Applied).after c) (p.keyOf r) := by
  have habsent {c' : Cluster} (hc' : Removed (fun _ => True) c c') : FreshAt c' (p.keyOf r) :=
    freshAt_of_absent (hc'.absent hc)
  unfold Pass.apply
  refine after_bind (FreshAt · _) (fun _ _ he => habsent ((Keeps.ofExcept _).of_error he))
    fun wished c₁ hwished => ?_
  obtain ⟨hrender, rfl⟩ := ofExcept_ok_iff.1 hwished
  obtain ⟨t, ht, rfl⟩ := Registry.render_ok hrender
  have htemplate := h r t ht
  refine after_bind (FreshAt · _) (fun _ _ he => habsent ((get_removed _).of_error he))
    fun found c₂ hget => ?_
  have hread : Removed (fun _ => True) c₁ c₂ := (get_removed _).of_ok hget
  have hmissing : found = none := (get_ok hget).1.trans hc
  subst hmissing
  refine after_bind (FreshAt · _)
    (fun _ _ he => habsent (hread.trans ((Keeps.ofExcept _).of_error he))) fun o c₃ howned => ?_
  obtain ⟨hown, rfl⟩ := ofExcept_ok_iff.1 howned
  have hstands := (htemplate.desired p.subject p.image).own hown
  refine after_bind (FreshAt · _) (fun e c₄ he => ?_) fun o' c₄ hcreate => ?_
  · rw [create_error he]
    exact habsent (hread.trans (removed_record ..))
  · obtain ⟨ho', c₅, uid, rfl⟩ := create_ok hcreate
    rw [hstands.key_eq] at ho'
    have hfresh : FreshAt c₄ (p.keyOf r) := by
      intro o' hfound
      obtain rfl := Option.some.inj (ho'.symm.trans hfound)
      refine ⟨hstands.kind.trans (r.key_kind p.subject).symm, ?_, fun hscope => ?_⟩
      · obtain ⟨refs, rfl⟩ := ManagedObject.own_ok hown
        exact htemplate.desired_noStatus ..
      · rw [show (p.keyOf r).kind = r.kind from r.key_kind p.subject, ← hstands.kind] at hscope
        have hunowned := htemplate.desired_unowned p.subject p.image
        have hkind : o.kind = (t.setDesired p.subject p.image).kind := by
          obtain ⟨refs, rfl⟩ := ManagedObject.own_ok hown
          rfl
        rw [ManagedObject.own_of_clusterScoped (hkind ▸ hscope)] at hown
        obtain rfl := Except.ok.inj hown
        exact hunowned
    have htold : Keeps (Removed fun _ => True)
        (notify p.subject "Creating" (p.keyOf r) >>= fun _ => pure Applied.created) :=
      (notify_removed _ _ _).bind fun _ => Keeps.pure _
    exact hfresh.removed (htold c₄)

theorem FreshAt.of_eq {k : Key} (h : FreshAt c k)
    (hc : Table.get? c'.objects k = Table.get? c.objects k) : FreshAt c' k := by
  intro o ho
  rw [hc] at ho
  exact h o ho

theorem applyAll_fresh {rs : List Resource} (h : p.templates.Sound) (hkeyed : c.Keyed)
    (hnodup : (rs.map p.keyOf).Nodup) (hr : r ∈ rs)
    (hc : Table.get? c.objects (p.keyOf r) = none) :
    FreshAt ((p.applyAll rs : StoreM Cluster Unit).after c) (p.keyOf r) := by
  induction rs generalizing c with
  | nil => cases hr
  | cons r' rs ih =>
    obtain ⟨hr', hnodup⟩ := List.nodup_cons.1 hnodup
    have hfirst := p.apply_touches h r' c hkeyed
    rcases List.mem_cons.1 hr with rfl | hr
    · have hfresh := apply_fresh (p := p) h hc
      refine after_bind (FreshAt · _) (fun e c₁ he => ?_) fun _ c₁ hok => ?_
      · rwa [after_error he] at hfresh
      · rw [after_ok hok] at hfresh hfirst
        exact hfresh.of_eq ((p.applyAll_touches h rs c₁ (hfirst.keyed hkeyed)).objects _ hr')
    · have habsent : Table.get?
          ((p.apply r' : StoreM Cluster Applied).after c).objects (p.keyOf r) = none := by
        rw [hfirst.objects _ fun heq => hr' (heq ▸ List.mem_map_of_mem hr)]
        exact hc
      refine after_bind (FreshAt · _) (fun e c₁ he => ?_) fun _ c₁ hok => ?_
      · rw [after_error he] at habsent
        exact freshAt_of_absent habsent
      · rw [after_ok hok] at habsent hfirst
        exact ih (hfirst.keyed hkeyed) hnodup hr habsent

end Pass

/-! ## Deleting -/

theorem keyExists_removed (key : Key) :
    Keeps (Removed K) (keyExists key : StoreM Cluster Bool) :=
  (get_removed key).bind fun _ => Keeps.pure _

theorem deleteOnce_removed (key : Key) :
    Keeps (Removed (· = key)) (deleteOnce key : StoreM Cluster Unit) := by
  refine (keyExists_removed key).bind fun present => Keeps.ite ?_ (Keeps.pure _)
  exact (delete_removed key).attempt.bind fun _ => Keeps.ofExcept _

theorem deleteTries_removed (policy : RetryPolicy) (key : Key) (n : Nat) :
    Keeps (Removed (· = key)) (deleteTries policy key n : StoreM Cluster Unit) := by
  induction n with
  | zero => exact (pause_removed _).bind fun _ => Keeps.throw _
  | succ n ih =>
    refine (deleteOnce_removed key).bind fun _ => (keyExists_removed key).bind fun present => ?_
    refine Keeps.ite ?_ (Keeps.pure _)
    exact Keeps.ite ((pause_removed _).bind fun _ => ih) ih

theorem deleteAll_eq (policy : RetryPolicy) (keys : List Key) :
    (deleteAll policy keys : StoreM Cluster Unit) = each (deleteWithRetry policy) keys := by
  induction keys with
  | nil => rfl
  | cons key keys ih => exact congrArg (deleteWithRetry policy key >>= fun _ => ·) ih

theorem deleteAll_removed (policy : RetryPolicy) (keys : List Key) :
    Keeps (Removed (· ∈ keys)) (deleteAll policy keys : StoreM Cluster Unit) := by
  induction keys with
  | nil => exact Keeps.pure _
  | cons key keys ih =>
    refine Keeps.bind ((deleteTries_removed policy key _).mono fun _ _ => Removed.mono ?_) fun _ =>
      ih.mono fun _ _ => Removed.mono ?_
    · rintro k rfl
      exact List.mem_cons_self
    · intro k hk
      exact List.mem_cons_of_mem _ hk

theorem keyExists_ok {present : Bool}
    (h : (keyExists key : StoreM Cluster Bool) c = .ok present c') :
    present = (Table.get? c.objects key).isSome ∧ c' = c.record (.object .get key) := by
  obtain ⟨found, c₁, hget, h⟩ := bind_ok.1 h
  obtain ⟨rfl, rfl⟩ := get_ok hget
  cases h
  exact ⟨rfl, rfl⟩

/-- Only a look at a cluster without the object ends the tries with success. -/
theorem deleteTries_ok {policy : RetryPolicy} {n : Nat}
    (h : (deleteTries policy key n : StoreM Cluster Unit) c = .ok () c') :
    Table.get? c'.objects key = none := by
  induction n generalizing c with
  | zero =>
    obtain ⟨_, _, -, h⟩ := bind_ok.1 h
    cases h
  | succ n ih =>
    obtain ⟨_, c₁, -, h⟩ := bind_ok.1 h
    obtain ⟨present, c₂, hexists, h⟩ := bind_ok.1 h
    obtain ⟨rfl, rfl⟩ := keyExists_ok hexists
    split at h
    · split at h
      · obtain ⟨_, _, -, h⟩ := bind_ok.1 h
        exact ih h
      · exact ih h
    · next hpresent =>
      cases h
      exact Option.not_isSome_iff_eq_none.1 hpresent

theorem deleteAll_ok {policy : RetryPolicy}
    (h : (deleteAll policy keys : StoreM Cluster Unit) c = .ok () c') :
    ∀ k ∈ keys, Table.get? c'.objects k = none := by
  induction keys generalizing c with
  | nil => simp
  | cons key keys ih =>
    obtain ⟨_, c₁, hdelete, hrest⟩ := bind_ok.1 h
    intro k hk
    rcases List.mem_cons.1 hk with rfl | hk
    · exact ((deleteAll_removed policy keys).of_ok hrest).absent (deleteTries_ok hdelete)
    · exact ih hrest k hk

/-! ## Quiet clusters -/

theorem keyExists_quiet (h : c.Quiet) (key : Key) :
    (keyExists key : StoreM Cluster Bool) c =
      .ok (Table.get? c.objects key).isSome (c.record (.object .get key)) :=
  bind_of_ok (get_of_clear h.failures key)

theorem delete_quiet (h : c.Quiet) (hkey : Table.contains c.objects key = true) :
    (Store.delete key : StoreM Cluster Unit) c =
      .ok () { c.record (.object .delete key) with objects := Table.erase c.objects key } := by
  rw [delete_run, injected?_of_quiet h]
  simp [hkey, h.sticky]

theorem deleteOnce_quiet (h : c.Quiet) (key : Key) :
    ∃ c', (deleteOnce key : StoreM Cluster Unit) c = .ok () c' ∧
      Table.get? c'.objects key = none := by
  have hexists := keyExists_quiet h key
  cases hkey : Table.get? c.objects key with
  | none =>
    rw [hkey] at hexists
    exact ⟨_, bind_of_ok hexists, hkey⟩
  | some o =>
    rw [hkey] at hexists
    have hquiet : (c.record (.object .get key)).Quiet := ⟨h.failures, h.sticky⟩
    have hcontains : Table.contains (c.record (.object .get key)).objects key = true := by
      unfold Table.contains
      exact Option.isSome_iff_exists.2 ⟨o, hkey⟩
    refine ⟨_, (bind_of_ok hexists).trans
      (bind_of_ok (attempt_of_ok (delete_quiet hquiet hcontains))), ?_⟩
    exact (Table.get?_erase ..).trans (if_pos rfl)

/-- One try is enough. -/
theorem deleteTries_quiet (h : c.Quiet) (policy : RetryPolicy) (key : Key) (n : Nat) :
    ∃ c', (deleteTries policy key (n + 1) : StoreM Cluster Unit) c = .ok () c' := by
  obtain ⟨c₁, hdelete, hgone⟩ := deleteOnce_quiet h key
  have hquiet := ((deleteOnce_removed key).of_ok hdelete).quiet h
  have hexists := keyExists_quiet hquiet key
  rw [hgone] at hexists
  exact ⟨_, (bind_of_ok hdelete).trans (bind_of_ok hexists)⟩

theorem deleteAll_quiet (h : c.Quiet) (policy : RetryPolicy) (keys : List Key) :
    ∃ c', (deleteAll policy keys : StoreM Cluster Unit) c = .ok () c' := by
  induction keys generalizing c with
  | nil => exact ⟨c, rfl⟩
  | cons key keys ih =>
    obtain ⟨c₁, hdelete⟩ :=
      deleteTries_quiet h policy key (policy.timeout.nanos / policy.interval.nanos)
    obtain ⟨c', hrest⟩ := ih (((deleteTries_removed policy key _).of_ok hdelete).quiet h)
    exact ⟨c', (bind_of_ok hdelete).trans hrest⟩

namespace Pass

variable {p : Pass} {r : Resource}

/-- An instance that can own gets what it misses. -/
theorem apply_of_clear (h : c.failures = []) (hsound : p.templates.Sound)
    (howner : p.subject.controllerReference?.isSome)
    (hr : Table.contains p.templates.templates r = true)
    (hc : Table.get? c.objects (p.keyOf r) = none) :
    ∃ c', (p.apply r : StoreM Cluster Applied) c = .ok .created c' ∧
      (Table.get? c'.objects (p.keyOf r)).isSome := by
  obtain ⟨t, ht⟩ := Option.isSome_iff_exists.1 hr
  have htemplate := hsound r t ht
  obtain ⟨o, hown⟩ := ManagedObject.own_of_unowned howner
    (htemplate.desired_unowned p.subject p.image)
  have hkey : o.key = p.keyOf r := ((htemplate.desired ..).own hown).key_eq
  have hread := get_of_clear h (p.keyOf r)
  rw [hc] at hread
  obtain ⟨o', c', hcreate⟩ :=
    create_of_clear (o := o) (c := c.record (.object .get (p.keyOf r))) h (by rw [hkey]; exact hc)
  obtain ⟨c'', hnotify, hobjects⟩ := notify_ok p.subject "Creating" (p.keyOf r) c'
  refine ⟨c'', ?_, ?_⟩
  · unfold Pass.apply
    refine (bind_of_ok (ofExcept_ok_iff.2 ⟨Registry.render_of_get? ht, rfl⟩)).trans ?_
    refine (bind_of_ok hread).trans ?_
    refine (bind_of_ok (ofExcept_ok_iff.2 ⟨hown, rfl⟩)).trans ?_
    exact (bind_of_ok hcreate).trans (bind_of_ok hnotify)
  · rw [hobjects, ← hkey, (create_ok hcreate).1]
    rfl

theorem applyAll_quiet {rs : List Resource} (h : c.Quiet) (hkeyed : c.Keyed)
    (hsound : p.templates.Sound) (howner : p.subject.controllerReference?.isSome)
    (hrs : ∀ r ∈ rs, Table.contains p.templates.templates r = true)
    (hnodup : (rs.map p.keyOf).Nodup) (hc : ∀ r ∈ rs, Table.get? c.objects (p.keyOf r) = none) :
    ∃ c', (p.applyAll rs : StoreM Cluster Unit) c = .ok () c' ∧
      ∀ r ∈ rs, (Table.get? c'.objects (p.keyOf r)).isSome := by
  induction rs generalizing c with
  | nil => exact ⟨c, rfl, by simp⟩
  | cons r rs ih =>
    obtain ⟨hr, hnodup⟩ := List.nodup_cons.1 hnodup
    obtain ⟨c₁, happly, hpresent⟩ := apply_of_clear h.failures hsound howner
      (hrs r List.mem_cons_self) (hc r List.mem_cons_self)
    have hfirst := (p.apply_touches hsound r).of_ok happly hkeyed
    have hothers : ∀ r' ∈ rs, Table.get? c₁.objects (p.keyOf r') = none := by
      intro r' hr'
      rw [hfirst.objects _ fun heq => hr (heq ▸ List.mem_map_of_mem hr')]
      exact hc r' (List.mem_cons_of_mem _ hr')
    obtain ⟨c', hrest, hall⟩ := ih (hfirst.quiet h) (hfirst.keyed hkeyed)
      (fun r' hr' => hrs r' (List.mem_cons_of_mem _ hr')) hnodup hothers
    refine ⟨c', (bind_of_ok happly).trans hrest, fun r' hr' => ?_⟩
    rcases List.mem_cons.1 hr' with rfl | hr'
    · have hkept := (p.applyAll_touches hsound rs).of_ok hrest (hfirst.keyed hkeyed)
      rwa [hkept.objects _ hr]
    · exact hall r' hr'

end Pass

end NodeFeatureOperator
