import NodeFeatureOperator.Proofs.Cluster.Instances
import NodeFeatureOperator.Proofs.Convergence
import NodeFeatureOperator.Proofs.Rendering

/-!
# What becomes of the object of a resource

What applying a resource does is decided by what is stored under its key and by the failures that
are injected: `Pass.verdict` says whether it fails, leaves everything alone, or writes an object,
and which (`Pass.apply_follows`). What is written is settled, so the verdict on the cluster after it
is that nothing is to be written (`Pass.Reached.verdict`), and stays so as long as nothing else is
stored under the key.
-/

namespace NodeFeatureOperator

open Cluster StoreM

/-- What is found for a resource is a well-formed object of its kind, if anything is found. -/
def Resource.Fits (r : Resource) (found : Option ManagedObject) : Prop :=
  ∀ live, found = some live → live.WellFormed ∧ live.kind = r.kind

/-! ## Clusters -/

namespace Cluster

variable {c c' : Cluster}

/-- Every object is well-formed and stored under its own key. -/
structure Orderly (c : Cluster) : Prop where
  keyed : c.Keyed
  wellFormed : ∀ k o, Table.get? c.objects k = some o → o.WellFormed

/-- The second cluster differs from the first in nothing but the calls on record. -/
def Called (c c' : Cluster) : Prop := ∃ calls, c' = { c with calls }

instance : IsPreorder Cluster Called where
  refl c := ⟨c.calls, rfl⟩
  trans := by
    rintro c _ _ ⟨calls, rfl⟩ ⟨more, rfl⟩
    exact ⟨more, rfl⟩

theorem Orderly.found (h : c.Orderly) (r : Resource) (i : Instance) :
    r.Fits (Table.get? c.objects (r.key i)) := fun _ hlive =>
  ⟨h.wellFormed _ _ hlive, h.keyed.kind_of_get? hlive⟩

theorem Orderly.of_rows (hkeyed : c.Keyed) (hformed : ∀ row ∈ c.objects, row.2.WellFormed) :
    c.Orderly :=
  ⟨hkeyed, fun _ _ ho => hformed _ (Table.mem_of_get? ho)⟩

theorem Orderly.of_objects (h : c.Orderly) (hobjects : c'.objects = c.objects) : c'.Orderly := by
  refine ⟨?_, ?_⟩
  · unfold Keyed
    rw [hobjects]
    exact h.keyed
  · rw [hobjects]
    exact h.wellFormed

theorem Called.orderly (h : c.Called c') (hc : c.Orderly) : c'.Orderly := by
  obtain ⟨calls, rfl⟩ := h
  exact hc.of_objects rfl

theorem called_record (c : Cluster) (call : Call) : c.Called (c.record call) := ⟨_, rfl⟩

end Cluster

namespace Pass

variable {p : Pass} {r : Resource} {c c' : Cluster} {o : ManagedObject} {e : Error}

/-- The pass has a fitting template for every resource, and its instance asks for nothing that does
not fit. -/
structure Fit (p : Pass) : Prop where
  sound : p.templates.Sound
  wellFormed : p.templates.WellFormed
  complete : ∀ r ∈ p.deployed, Table.contains p.templates.templates r = true
  spec : p.subject.spec.WellFormed

/-- The desired object of a resource. -/
structure Desires (p : Pass) (r : Resource) (d : ManagedObject) : Prop where
  rendered : p.templates.render p.subject r p.image = .ok d
  wish : d.Wish
  stands : d.StandsFor r p.subject

theorem Fit.desires (h : p.Fit) (hr : r ∈ p.deployed) : ∃ d, p.Desires r d := by
  obtain ⟨t, ht⟩ := Option.isSome_iff_exists.1 (h.complete r hr)
  have hrender : p.templates.render p.subject r p.image = .ok (t.setDesired p.subject p.image) :=
    Registry.render_of_get? ht
  exact ⟨_, hrender, h.wellFormed.render h.spec hrender, (h.sound r t ht).desired ..⟩

/-- What the object of a resource is to become, given the one that is there. -/
def goal (p : Pass) (r : Resource) (found : Option ManagedObject) : Except Error ManagedObject :=
  match p.templates.render p.subject r p.image with
  | .error e => .error e
  | .ok d =>
    match found with
    | none => d.own p.subject
    | some live => live.converged d p.subject

/-- What is to be written for a resource; `none` if nothing is. -/
def verdict (p : Pass) (r : Resource) (c : Cluster) : Except Error (Option ManagedObject) :=
  match c.injected? .get (p.keyOf r), p.goal r (Table.get? c.objects (p.keyOf r)) with
  | some e, _ => .error e
  | none, .error e => .error e
  | none, .ok o =>
    if Table.get? c.objects (p.keyOf r) = some o then .ok none
    else
      match c.injected? (if Table.contains c.objects (p.keyOf r) then .update else .create)
        (p.keyOf r) with
      | some e => .error e
      | none => .ok (some o)

/-- What convergence makes of the object of a resource. -/
structure Settles (p : Pass) (r : Resource) (o : ManagedObject) : Prop where
  wellFormed : o.WellFormed
  kind : o.kind = r.kind
  settled : ∀ d, p.Desires r d → o.Settled d p.subject

theorem Desires.unique {d d' : ManagedObject} (h : p.Desires r d) (h' : p.Desires r d') : d = d' :=
  Except.ok.inj (h.rendered.symm.trans h'.rendered)

/-- The files of a desired configuration are those of the instance. -/
theorem Desires.get?_data {d : ManagedObject} (h : p.Desires r d) (hkind : r.kind = .configMap) :
    Table.get? d.body "data" = some (.ofStringTable p.subject.configFiles) := by
  obtain ⟨t, -, rfl⟩ := Registry.render_ok h.rendered
  refine ManagedObject.get?_data_setDesired ?_ ..
  have hdesired := h.stands.kind
  unfold ManagedObject.setDesired at hdesired
  rwa [ManagedObject.setBody_kind, ManagedObject.setPlace_kind, hkind] at hdesired

theorem Desires.goal_none {d : ManagedObject} (h : p.Desires r d) :
    p.goal r none = d.own p.subject := by
  unfold goal
  rw [h.rendered]

theorem Desires.goal_some {d live : ManagedObject} (h : p.Desires r d) (hlive : live.WellFormed)
    (hkind : live.kind = r.kind) : p.goal r (some live) = (live.overlay d).own p.subject := by
  unfold goal
  rw [h.rendered]
  exact ManagedObject.converged_eq hlive h.wish (h.stands.kind.trans hkind.symm) p.subject

/-- What an object is to become is settled, under whatever marks it is stored. -/
theorem settles_of_goal (h : p.Fit) (hr : r ∈ p.deployed) {found : Option ManagedObject}
    (hfound : r.Fits found) (hgoal : p.goal r found = .ok o) : p.Settles r o := by
  obtain ⟨d, hd⟩ := h.desires hr
  cases found with
  | none =>
    rw [hd.goal_none] at hgoal
    refine ⟨hd.wish.wellFormed.own hgoal, ?_, fun d' hd' => ?_⟩
    · exact (ManagedObject.own_kind hgoal).trans hd.stands.kind
    · rw [hd'.unique hd]
      exact ManagedObject.settled_of_wish hd.wish hgoal
  | some live =>
    obtain ⟨hlive, hkind⟩ := hfound live rfl
    have hsame := hd.stands.kind.trans hkind.symm
    rw [hd.goal_some hlive hkind] at hgoal
    refine ⟨(hlive.overlay hd.wish.wellFormed hsame).own hgoal, ?_, fun d' hd' => ?_⟩
    · exact (ManagedObject.own_kind hgoal).trans hkind
    · rw [hd'.unique hd]
      exact ManagedObject.settled_of_overlay hlive hd.wish hsame hgoal

theorem Settles.marked (h : p.Settles r o) (version uid : Option String) :
    p.Settles r (o.marked version uid) :=
  ⟨h.wellFormed.marked version uid, h.kind, fun d hd => (h.settled d hd).marked version uid⟩

/-- A settled object is to stay as it is. -/
theorem Settles.goal (h : p.Settles r o) (hfit : p.Fit) (hr : r ∈ p.deployed) :
    p.goal r (some o) = .ok o := by
  obtain ⟨d, hd⟩ := hfit.desires hr
  rw [hd.goal_some h.wellFormed h.kind, (h.settled d hd).holds, (h.settled d hd).owned]

/-! ## Writing -/

theorem create_refused (h : c.injected? .create o.key = some e) :
    (Store.create o : StoreM Cluster ManagedObject) c =
      .error e (c.record (.object .create o.key)) := by
  rw [create_run, h]

theorem create_written (h : c.injected? .create o.key = none)
    (hfree : Table.get? c.objects o.key = none) :
    ∃ o' c' version uid, (Store.create o : StoreM Cluster ManagedObject) c = .ok o' c' ∧
      Table.get? c'.objects o.key = some (o.marked version uid) := by
  rw [create_run, h]
  dsimp only
  rw [if_neg (by simp [Table.contains, hfree])]
  exact ⟨_, _, _, _, rfl, Table.get?_insert_self ..⟩

theorem update_refused (h : c.injected? .update o.key = some e) :
    (Store.update o : StoreM Cluster ManagedObject) c =
      .error e (c.record (.object .update o.key)) := by
  rw [update_run, h]

/-- A writer that has just read the object replaces it. -/
theorem update_written {old : ManagedObject} (h : c.injected? .update o.key = none)
    (hold : Table.get? c.objects o.key = some old)
    (hversion : o.metadata.resourceVersion = old.metadata.resourceVersion) :
    ∃ o' c' version, (Store.update o : StoreM Cluster ManagedObject) c = .ok o' c' ∧
      Table.get? c'.objects o.key = some (o.marked version old.metadata.uid) := by
  have hfresh : isStale o.metadata old.metadata = false := by
    rw [← isStale_self old.metadata]
    unfold isStale
    rw [hversion]
  rw [update_run, h, hold]
  simp only [hfresh, Bool.false_eq_true, if_false]
  exact ⟨_, _, _, rfl, Table.get?_insert_self ..⟩

/-! ## Applying -/

/-- Applying a resource comes to what a verdict says. -/
def Follows (p : Pass) (r : Resource) (c : Cluster) :
    Except Error (Option ManagedObject) → Prop
  | .error e => ∃ c', p.apply r c = .error e c' ∧ c.Called c'
  | .ok none => ∃ a c', p.apply r c = .ok a c' ∧ c.Called c'
  | .ok (some o) => ∃ a c' version uid, p.apply r c = .ok a c' ∧
      Table.get? c'.objects (p.keyOf r) = some (o.marked version uid) ∧
      ∀ live, Table.get? c.objects (p.keyOf r) = some live → uid = live.metadata.uid

/-- What is missing is created. -/
theorem follows_of_missing {d : ManagedObject} (hd : p.Desires r d)
    (hget : c.injected? .get (p.keyOf r) = none)
    (hfound : Table.get? c.objects (p.keyOf r) = none) : p.Follows r c (p.verdict r c) := by
  have hread : (Store.get (p.keyOf r) : StoreM Cluster (Option ManagedObject)) c =
      .ok none (c.record (.object .get (p.keyOf r))) := by
    rw [get_run, hget, hfound]
  have hstart : p.apply r c = (do
      let o ← StoreM.ofExcept (d.own p.subject)
      let _ ← Store.create o
      notify p.subject "Creating" (p.keyOf r)
      return .created : StoreM Cluster Applied) (c.record (.object .get (p.keyOf r))) :=
    (bind_of_ok (ofExcept_ok_iff.2 ⟨hd.rendered, rfl⟩)).trans (bind_of_ok hread)
  unfold verdict Table.contains
  rw [hget, hfound, hd.goal_none]
  cases hown : d.own p.subject with
  | error e =>
    rw [hown] at hstart
    exact ⟨_, hstart, called_record ..⟩
  | ok o =>
    have hkey : o.key = p.keyOf r := (hd.stands.own hown).key_eq
    rw [hown] at hstart
    have hstart := hstart.trans (bind_of_ok rfl)
    simp only [reduceCtorEq, if_false, Option.isSome_none, Bool.false_eq_true]
    cases hcreate : c.injected? .create (p.keyOf r) with
    | some e =>
      have hrefused := create_refused (o := o) (c := c.record (.object .get (p.keyOf r)))
        (by rw [hkey]; exact hcreate)
      exact ⟨_, hstart.trans (bind_of_error hrefused),
        trans_of _ (called_record ..) (called_record ..)⟩
    | none =>
      obtain ⟨o', c', version, uid, hwritten, hput⟩ :=
        create_written (o := o) (c := c.record (.object .get (p.keyOf r)))
          (by rw [hkey]; exact hcreate) (by rw [hkey]; exact hfound)
      obtain ⟨c'', hnotify, hobjects⟩ := notify_ok p.subject "Creating" (p.keyOf r) c'
      refine ⟨.created, c'', version, uid,
        hstart.trans ((bind_of_ok hwritten).trans (bind_of_ok hnotify)), ?_, fun live h => ?_⟩
      · rw [hobjects, ← hkey, hput]
      · cases hfound.symm.trans h

/-- What is there is updated, unless it is what it is to be. -/
theorem follows_of_found {d live : ManagedObject} (hd : p.Desires r d) (hlive : live.WellFormed)
    (hkind : live.kind = r.kind) (hget : c.injected? .get (p.keyOf r) = none)
    (hfound : Table.get? c.objects (p.keyOf r) = some live) : p.Follows r c (p.verdict r c) := by
  have hsame := hd.stands.kind.trans hkind.symm
  have hread : (Store.get (p.keyOf r) : StoreM Cluster (Option ManagedObject)) c =
      .ok (some live) (c.record (.object .get (p.keyOf r))) := by
    rw [get_run, hget, hfound]
  have hstart : p.apply r c = (do
      let o ← StoreM.ofExcept ((live.overlay d).own p.subject)
      if o.toJson = live.toJson then return .unchanged
      else
        let _ ← Store.update o
        notify p.subject "Updating" (p.keyOf r)
        return .updated : StoreM Cluster Applied) (c.record (.object .get (p.keyOf r))) := by
    rw [← ManagedObject.converged_eq hlive hd.wish hsame]
    exact (bind_of_ok (ofExcept_ok_iff.2 ⟨hd.rendered, rfl⟩)).trans (bind_of_ok hread)
  unfold verdict Table.contains
  rw [hget, hfound, hd.goal_some hlive hkind]
  cases hown : (live.overlay d).own p.subject with
  | error e =>
    rw [hown] at hstart
    exact ⟨_, hstart, called_record ..⟩
  | ok o =>
    have ho : o.WellFormed := (hlive.overlay hd.wish.wellFormed hsame).own hown
    have hokind : o.kind = live.kind := ManagedObject.own_kind (o := live.overlay d) hown
    have hconverged : live.converged d p.subject = .ok o :=
      (ManagedObject.converged_eq hlive hd.wish hsame _).trans hown
    have hkey : o.key = p.keyOf r :=
      (hd.stands.converged hd.wish.wellFormed.sorted hkind hconverged).key_eq
    have hjson : o.toJson = live.toJson ↔ o = live :=
      ⟨ho.eq_of_toJson hlive hokind, congrArg _⟩
    rw [hown] at hstart
    have hstart := hstart.trans (bind_of_ok rfl)
    by_cases heq : o = live
    · rw [if_pos (hjson.2 heq)] at hstart
      simp only [heq, if_true]
      exact ⟨_, _, hstart, called_record ..⟩
    · rw [if_neg (mt hjson.1 heq)] at hstart
      simp only [Option.some.injEq, Ne.symm heq, if_false, Option.isSome_some, if_true]
      cases hupdate : c.injected? .update (p.keyOf r) with
      | some e =>
        have hrefused := update_refused (o := o) (c := c.record (.object .get (p.keyOf r)))
          (by rw [hkey]; exact hupdate)
        exact ⟨_, hstart.trans (bind_of_error hrefused),
          trans_of _ (called_record ..) (called_record ..)⟩
      | none =>
        have hversion : o.metadata.resourceVersion = live.metadata.resourceVersion := by
          rcases ManagedObject.own_cases hown with ⟨-, rfl⟩ | ⟨-, owner, -, -, rfl⟩
          · rfl
          · rfl
        obtain ⟨o', c', version, hwritten, hput⟩ :=
          update_written (o := o) (c := c.record (.object .get (p.keyOf r)))
            (by rw [hkey]; exact hupdate) (by rw [hkey]; exact hfound) hversion
        obtain ⟨c'', hnotify, hobjects⟩ := notify_ok p.subject "Updating" (p.keyOf r) c'
        refine ⟨.updated, c'', version, live.metadata.uid,
          hstart.trans ((bind_of_ok hwritten).trans (bind_of_ok hnotify)), ?_, fun _ h => ?_⟩
        · rw [hobjects, ← hkey, hput]
        · rw [Option.some.inj (hfound.symm.trans h)]

theorem apply_follows (h : p.Fit) (hc : c.Orderly) (hr : r ∈ p.deployed) :
    p.Follows r c (p.verdict r c) := by
  obtain ⟨d, hd⟩ := h.desires hr
  cases hget : c.injected? .get (p.keyOf r) with
  | some e =>
    have hread : (Store.get (p.keyOf r) : StoreM Cluster (Option ManagedObject)) c =
        .error e (c.record (.object .get (p.keyOf r))) := by
      rw [get_run, hget]
    unfold verdict
    rw [hget]
    exact ⟨_, (bind_of_ok (ofExcept_ok_iff.2 ⟨hd.rendered, rfl⟩)).trans (bind_of_error hread),
      called_record ..⟩
  | none =>
    cases hfound : Table.get? c.objects (p.keyOf r) with
    | none => exact follows_of_missing hd hget hfound
    | some live =>
      obtain ⟨hlive, hkind⟩ := hc.found r p.subject live hfound
      exact follows_of_found hd hlive hkind hget hfound

/-! ## After an application -/

/-- What decides about a resource is the same on both clusters. -/
structure Alike (p : Pass) (r : Resource) (c c' : Cluster) : Prop where
  failures : c'.failures = c.failures
  object : Table.get? c'.objects (p.keyOf r) = Table.get? c.objects (p.keyOf r)

theorem Alike.of_called (h : c.Called c') : p.Alike r c c' := by
  obtain ⟨calls, rfl⟩ := h
  exact ⟨rfl, rfl⟩

theorem Alike.verdict (h : p.Alike r c c') : p.verdict r c' = p.verdict r c := by
  unfold Pass.verdict Table.contains injected?
  rw [h.object, h.failures]

/-- A verdict that is no failure goes by what the object is to become. -/
theorem verdict_ok {written : Option ManagedObject} (h : p.verdict r c = .ok written) :
    c.injected? .get (p.keyOf r) = none ∧
      ∃ o, p.goal r (Table.get? c.objects (p.keyOf r)) = .ok o ∧
        (written = none ∧ Table.get? c.objects (p.keyOf r) = some o ∨ written = some o) := by
  unfold verdict at h
  cases hget : c.injected? .get (p.keyOf r) with
  | some e =>
    rw [hget] at h
    cases h
  | none =>
    cases hgoal : p.goal r (Table.get? c.objects (p.keyOf r)) with
    | error e =>
      rw [hget, hgoal] at h
      cases h
    | ok o =>
      rw [hget, hgoal] at h
      refine ⟨rfl, o, rfl, ?_⟩
      dsimp only at h
      split at h
      · next hfound => exact Or.inl ⟨(Except.ok.inj h).symm, hfound⟩
      · split at h
        · cases h
        · exact Or.inr (Except.ok.inj h).symm

/-- An object is the one that was found, or what that was to become, under marks of its own. -/
def Advances (p : Pass) (r : Resource) (found found' : Option ManagedObject) : Prop :=
  found' = found ∨ ∃ o version uid, p.goal r found = .ok o ∧
    found' = some (o.marked version uid) ∧ ∀ live, found = some live → uid = live.metadata.uid

/-- What an object is to become does not depend on how far it has come. -/
theorem Advances.goal {found found' : Option ManagedObject} (h : p.Advances r found found')
    (hfit : p.Fit) (hr : r ∈ p.deployed) (hfound : r.Fits found) :
    (p.goal r found').map (·.marked none none) = (p.goal r found).map (·.marked none none) := by
  rcases h with rfl | ⟨o, version, uid, hgoal, rfl, -⟩
  · rfl
  · rw [((settles_of_goal hfit hr hfound hgoal).marked version uid).goal hfit hr, hgoal]
    rfl

/-- An application that fails leaves the cluster alone. -/
theorem apply_error (h : p.Fit) (hc : c.Orderly) (hr : r ∈ p.deployed)
    (hrun : p.apply r c = .error e c') : p.verdict r c = .error e ∧ c.Called c' := by
  have hfollows := apply_follows h hc hr
  cases hverdict : p.verdict r c with
  | error e' =>
    rw [hverdict] at hfollows
    obtain ⟨c'', hrun', hcalled⟩ := hfollows
    cases hrun.symm.trans hrun'
    exact ⟨rfl, hcalled⟩
  | ok written =>
    rw [hverdict] at hfollows
    cases written with
    | none =>
      obtain ⟨_, _, hrun', -⟩ := hfollows
      cases hrun.symm.trans hrun'
    | some o =>
      obtain ⟨_, _, _, _, hrun', -⟩ := hfollows
      cases hrun.symm.trans hrun'

/-- The object of a resource was brought to what it is to become. -/
def Reached (p : Pass) (r : Resource) (c c' : Cluster) : Prop :=
  c.injected? .get (p.keyOf r) = none ∧
    ∃ o version uid, p.goal r (Table.get? c.objects (p.keyOf r)) = .ok o ∧
      Table.get? c'.objects (p.keyOf r) = some (o.marked version uid) ∧
      ∀ live, Table.get? c.objects (p.keyOf r) = some live → uid = live.metadata.uid

theorem Alike.reached {c₁ : Cluster} (h : p.Alike r c c₁) (hreached : p.Reached r c₁ c') :
    p.Reached r c c' := by
  unfold Reached injected? at *
  rwa [h.failures, h.object] at hreached

theorem apply_ok (h : p.Fit) (hc : c.Orderly) (hr : r ∈ p.deployed) {a : Applied}
    (hrun : p.apply r c = .ok a c') : p.Reached r c c' := by
  have hfollows := apply_follows h hc hr
  cases hverdict : p.verdict r c with
  | error e' =>
    rw [hverdict] at hfollows
    obtain ⟨_, hrun', -⟩ := hfollows
    cases hrun.symm.trans hrun'
  | ok written =>
    rw [hverdict] at hfollows
    obtain ⟨hget, o, hgoal, hwritten⟩ := verdict_ok hverdict
    refine ⟨hget, o, ?_⟩
    rcases hwritten with ⟨rfl, hfound⟩ | rfl
    · obtain ⟨_, _, hrun', calls, rfl⟩ := hfollows
      cases hrun.symm.trans hrun'
      refine ⟨o.metadata.resourceVersion, o.metadata.uid, hgoal, hfound, fun live hlive => ?_⟩
      rw [Option.some.inj (hfound.symm.trans hlive)]
    · obtain ⟨_, _, version, uid, hrun', hput, huid⟩ := hfollows
      cases hrun.symm.trans hrun'
      exact ⟨version, uid, hgoal, hput, huid⟩

theorem Reached.advances (h : p.Reached r c c') :
    p.Advances r (Table.get? c.objects (p.keyOf r)) (Table.get? c'.objects (p.keyOf r)) :=
  Or.inr h.2

/-- What was reached is settled. -/
theorem Reached.settles (h : p.Reached r c c') (hfit : p.Fit) (hc : c.Orderly)
    (hr : r ∈ p.deployed) :
    ∃ o, Table.get? c'.objects (p.keyOf r) = some o ∧ p.Settles r o := by
  obtain ⟨-, o, version, uid, hgoal, hput, -⟩ := h
  exact ⟨_, hput, (settles_of_goal hfit hr (hc.found r p.subject) hgoal).marked version uid⟩

/-- Once the object has been reached, nothing is to be written for its resource. -/
theorem Reached.verdict (h : p.Reached r c c') (hfit : p.Fit) (hc : c.Orderly) (hr : r ∈ p.deployed)
    (hfailures : c'.failures = c.failures) : p.verdict r c' = .ok none := by
  obtain ⟨o, hput, hsettles⟩ := h.settles hfit hc hr
  have hget : c'.injected? .get (p.keyOf r) = none := (injected?_congr hfailures ..).trans h.1
  unfold Pass.verdict
  rw [hget, hput, hsettles.goal hfit hr]
  exact if_pos rfl

theorem apply_orderly (h : p.Fit) (hc : c.Orderly) (hr : r ∈ p.deployed) {a : Applied}
    (hrun : p.apply r c = .ok a c') : c'.Orderly := by
  have htouches := (p.apply_touches h.sound r).of_ok hrun hc.keyed
  refine ⟨htouches.keyed hc.keyed, fun k o ho => ?_⟩
  by_cases hk : k = p.keyOf r
  · obtain ⟨o', hput, hsettles⟩ := (apply_ok h hc hr hrun).settles h hc hr
    rw [hk] at ho
    obtain rfl := Option.some.inj (hput.symm.trans ho)
    exact hsettles.wellFormed
  · rw [htouches.objects k hk] at ho
    exact hc.wellFormed k o ho

end Pass

end NodeFeatureOperator
