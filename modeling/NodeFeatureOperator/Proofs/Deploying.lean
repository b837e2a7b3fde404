import Mathlib.Data.List.Flatten
import Mathlib.Data.List.Nodup
import NodeFeatureOperator.Proofs.Applying
import NodeFeatureOperator.Proofs.Operator

/-!
# Deploying resource by resource

A pass brings its components to their desired states one after the other. This is one walk over
their resources that stops at the first that fails (`Pass.build`). The walk brings the objects of
all resources that it gets past to what they are to become, and leaves all others alone
(`Pass.build_ok`); after it, another walk gets as far and writes nothing (`Pass.Walk.idle`).
-/

namespace NodeFeatureOperator

open Cluster StoreM

/-- Resources whose objects are in one place are the same. -/
theorem Resource.eq_of_key_eq {i j : Instance} {r r' : Resource} (h : r.key i = r'.key j) :
    r = r' := by
  have hkind := congrArg Key.kind h
  have hname := congrArg Key.name h
  rw [key_kind, key_kind] at hkind
  rw [key_name, key_name] at hname
  obtain ⟨kind, name⟩ := r
  obtain ⟨kind', name'⟩ := r'
  exact congr (congrArg Resource.mk hkind) hname

namespace Pass

/-! ## The walk -/

section

variable {σ : Type} [Store σ]

/-- Applies resources of components, up to the first that fails. The answer says what failed. -/
def build (p : Pass) : List (Component × Resource) → StoreM σ (Option (Component × Error))
  | [] => return none
  | (k, r) :: tasks => do
    match ← StoreM.attempt (p.apply r) with
    | .ok _ => build p tasks
    | .error e => return some (k, e)

end

/-- Resources of components, in order. -/
def tasks (p : Pass) (ks : List Component) : List (Component × Resource) :=
  ks.flatMap fun k => (p.managed k).map (k, ·)

/-- The resources of the deployment with their components. -/
def worklist (p : Pass) : List (Component × Resource) := p.tasks p.components

variable {p : Pass} {c c' : Cluster} {k : Component} {r : Resource} {e : Error}
  {ts : List (Component × Resource)} {failure : Option (Component × Error)}

theorem worklist_resources (p : Pass) : p.worklist.map (·.2) = p.deployed := by
  unfold worklist tasks deployed
  rw [List.map_flatMap]
  simp [Function.comp_def]

theorem mem_deployed {t : Component × Resource} (ht : t ∈ p.worklist) : t.2 ∈ p.deployed := by
  rw [← worklist_resources]
  exact List.mem_map_of_mem ht

theorem keyOf_injective (p : Pass) : Function.Injective p.keyOf := fun _ _ =>
  Resource.eq_of_key_eq

/-- Everything that is deployed is on the worklist. -/
theorem exists_task (hr : r ∈ p.deployed) : ∃ t ∈ p.worklist, t.2 = r := by
  rw [← worklist_resources] at hr
  exact List.mem_map.1 hr

/-- Nothing is deployed that the components do not consist of. -/
theorem deployed_sublist (p : Pass) :
    p.deployed.Sublist (Component.chain.flatMap Component.resources) := by
  unfold deployed managed
  rw [← List.filter_flatMap]
  exact List.filter_sublist.trans (List.filter_sublist.flatMap _)

theorem deployed_keys_nodup (p : Pass) : (p.deployed.map p.keyOf).Nodup := by
  have hchain : (Component.chain.flatMap Component.resources).Nodup := by decide
  exact (hchain.sublist p.deployed_sublist).map p.keyOf_injective

theorem worklist_keys_nodup (p : Pass) : (p.worklist.map fun t => p.keyOf t.2).Nodup := by
  have hkeys := p.deployed_keys_nodup
  rwa [← worklist_resources, List.map_map] at hkeys

theorem build_of_ok {a : Applied} (h : p.apply r c = .ok a c') :
    p.build ((k, r) :: ts) c = p.build ts c' :=
  bind_of_ok (attempt_of_ok h)

theorem build_of_error (h : p.apply r c = .error e c') :
    p.build ((k, r) :: ts) c = .ok (some (k, e)) c' :=
  bind_of_ok (attempt_of_error h)

theorem build_within (p : Pass) (ts : List (Component × Resource)) :
    Keeps (Within fun _ => True) (p.build ts : StoreM Cluster (Option (Component × Error))) := by
  induction ts with
  | nil => exact Keeps.pure _
  | cons t ts ih =>
    refine (p.apply_within t.2).attempt.bind fun answer => ?_
    cases answer with
    | ok a => exact ih
    | error e => exact Keeps.pure _

/-- A component is a stretch of the walk. -/
theorem build_applyAll (p : Pass) (k : Component) (rs : List Resource)
    (ts : List (Component × Resource)) (c : Cluster) :
    p.build (rs.map (k, ·) ++ ts) c =
      match (p.applyAll rs : StoreM Cluster Unit) c with
      | .ok _ c' => p.build ts c'
      | .error e c' => .ok (some (k, e)) c' := by
  induction rs generalizing c with
  | nil => rfl
  | cons r rs ih =>
    cases h : (p.apply r : StoreM Cluster Applied) c with
    | ok a c' =>
      have hrest : (p.applyAll (r :: rs) : StoreM Cluster Unit) c = p.applyAll rs c' :=
        bind_of_ok h
      rw [hrest, ← ih c']
      exact build_of_ok h
    | error e c' =>
      have hstop : (p.applyAll (r :: rs) : StoreM Cluster Unit) c = .error e c' :=
        bind_of_error h
      rw [hstop]
      exact build_of_error h

/-- Components other than the report are brought up by the walk over their resources. -/
theorem runComponents_build {ks : List Component} (hks : ∀ k ∈ ks, k ≠ .status)
    (rest : List Component) (c : Cluster) :
    p.runComponents (ks ++ rest) c = (do
      match ← p.build (p.tasks ks) with
      | none => p.runComponents rest
      | some (k, e) =>
        p.reportFailure k e
        throw e : StoreM Cluster Unit) c := by
  induction ks generalizing c with
  | nil => rfl
  | cons k ks ih =>
    have hrun : p.runComponent k c = (p.applyAll (p.managed k) : StoreM Cluster Unit) c := by
      cases k with
      | status => exact absurd rfl (hks .status List.mem_cons_self)
      | _ => rfl
    have hwalk := p.build_applyAll k (p.managed k) (p.tasks ks) c
    change p.build (p.tasks (k :: ks)) c = _ at hwalk
    cases h : (p.applyAll (p.managed k) : StoreM Cluster Unit) c with
    | ok u c' =>
      rw [h] at hrun hwalk
      rw [List.cons_append, runComponents_of_ok hrun,
        ih (fun k' hk' => hks k' (List.mem_cons_of_mem _ hk'))]
      exact (bind_run_congr hwalk _).symm
    | error e c' =>
      rw [h] at hrun hwalk
      dsimp only at hwalk
      rw [List.cons_append, runComponents_of_error hrun]
      symm
      exact bind_of_ok hwalk

/-! ## Where the walk gets -/

/-- A walk over these resources gets no further. -/
def Halts (p : Pass) (c : Cluster) :
    List (Component × Resource) → Option (Component × Error) → Prop
  | [], failure => failure = none
  | (k, r) :: _, failure => ∃ e, p.verdict r c = .error e ∧ failure = some (k, e)

theorem Halts.congr (h : p.Halts c ts failure) (hts : ∀ t ∈ ts, p.Alike t.2 c c') :
    p.Halts c' ts failure := by
  cases ts with
  | nil => exact h
  | cons t ts =>
    obtain ⟨e, hverdict, heq⟩ := h
    exact ⟨e, (hts t List.mem_cons_self).verdict.trans hverdict, heq⟩

/-- A walk has brought resources to what they are to become, up to the first that failed. -/
structure Walk (p : Pass) (c c' : Cluster) (done rest : List (Component × Resource))
    (failure : Option (Component × Error)) : Prop where
  reached : ∀ t ∈ done, p.Reached t.2 c c'
  within : Within (fun k => ∃ t ∈ done, p.keyOf t.2 = k) c c'
  halts : p.Halts c rest failure

theorem build_ok (h : p.Fit) (hc : c.Orderly) (hts : ∀ t ∈ ts, t.2 ∈ p.deployed)
    (hnodup : (ts.map fun t => p.keyOf t.2).Nodup) :
    ∃ done rest failure c', ts = done ++ rest ∧ p.build ts c = .ok failure c' ∧ c'.Orderly ∧
      p.Walk c c' done rest failure := by
  induction ts generalizing c with
  | nil => exact ⟨[], [], none, c, rfl, rfl, hc, by simp, Within.refl c, rfl⟩
  | cons t ts ih =>
    obtain ⟨k, r⟩ := t
    obtain ⟨hr, hts⟩ := List.forall_mem_cons.1 hts
    obtain ⟨hfirst, hnodup⟩ := List.nodup_cons.1 hnodup
    cases hrun : (p.apply r : StoreM Cluster Applied) c with
    | error e c₁ =>
      obtain ⟨hverdict, hcalled⟩ := apply_error h hc hr hrun
      refine ⟨[], (k, r) :: ts, some (k, e), c₁, rfl, build_of_error hrun, hcalled.orderly hc,
        by simp, ?_, e, hverdict, rfl⟩
      obtain ⟨calls, rfl⟩ := hcalled
      exact .of_objects_eq rfl rfl rfl rfl rfl
    | ok a c₁ =>
      have htouches := (p.apply_touches h.sound r).of_ok hrun hc.keyed
      have hreached := apply_ok h hc hr hrun
      have halike : ∀ t ∈ ts, p.Alike t.2 c c₁ := fun t ht =>
        ⟨htouches.failures, htouches.objects _ fun heq =>
          hfirst (List.mem_map.2 ⟨t, ht, heq⟩)⟩
      obtain ⟨done, rest, failure, c', rfl, hbuild, horderly, ⟨hdone, hwithin, hhalts⟩⟩ :=
        ih (apply_orderly h hc hr hrun) hts hnodup
      refine ⟨(k, r) :: done, rest, failure, c', rfl, (build_of_ok hrun).trans hbuild, horderly,
        List.forall_mem_cons.2 ⟨?_, fun t ht => ?_⟩, ?_, ?_⟩
      · obtain ⟨hget, o, version, uid, hgoal, hput, huid⟩ := hreached
        refine ⟨hget, o, version, uid, hgoal, ?_, huid⟩
        rw [hwithin.objects _ ?_, hput]
        rintro ⟨t, ht, heq⟩
        exact hfirst (List.mem_map.2 ⟨t, List.mem_append_left _ ht, heq⟩)
      · exact (halike t (List.mem_append_left _ ht)).reached (hdone t ht)
      · refine (htouches.mono fun k' hk' => ?_).trans (hwithin.mono fun k' hk' => ?_)
        · exact ⟨(k, r), List.mem_cons_self, hk'.symm⟩
        · obtain ⟨t, ht, heq⟩ := hk'
          exact ⟨t, List.mem_cons_of_mem _ ht, heq⟩
      · exact hhalts.congr fun t ht =>
          ⟨(halike t (List.mem_append_right _ ht)).failures.symm,
            (halike t (List.mem_append_right _ ht)).object.symm⟩

/-- A walk that has nothing to write changes nothing. -/
theorem build_idle (h : p.Fit) (hc : c.Orderly) {done rest : List (Component × Resource)}
    (hts : ∀ t ∈ done ++ rest, t.2 ∈ p.deployed)
    (hdone : ∀ t ∈ done, p.verdict t.2 c = .ok none) (hhalts : p.Halts c rest failure) :
    ∃ c', p.build (done ++ rest) c = .ok failure c' ∧ c.Called c' := by
  induction done generalizing c with
  | nil =>
    cases rest with
    | nil =>
      obtain rfl : failure = none := hhalts
      exact ⟨c, rfl, refl_of _ c⟩
    | cons t rest =>
      obtain ⟨k, r⟩ := t
      obtain ⟨e, hverdict, rfl⟩ := hhalts
      have hfollows := apply_follows h hc (hts (k, r) List.mem_cons_self)
      rw [hverdict] at hfollows
      obtain ⟨c', hrun, hcalled⟩ := hfollows
      exact ⟨c', build_of_error hrun, hcalled⟩
  | cons t done ih =>
    obtain ⟨k, r⟩ := t
    obtain ⟨hverdict, hdone⟩ := List.forall_mem_cons.1 hdone
    have hfollows := apply_follows h hc (hts (k, r) List.mem_cons_self)
    rw [hverdict] at hfollows
    obtain ⟨a, c₁, hrun, hcalled⟩ := hfollows
    obtain ⟨c', hbuild, hcalled'⟩ := ih (hcalled.orderly hc)
      (fun t ht => hts t (List.mem_cons_of_mem _ ht))
      (fun t ht => (Alike.of_called hcalled).verdict.trans (hdone t ht))
      (hhalts.congr fun t _ => .of_called hcalled)
    exact ⟨c', (build_of_ok hrun).trans hbuild, trans_of _ hcalled hcalled'⟩

section

variable {done rest : List (Component × Resource)}

/-- A walk leaves alone what it does not get past. -/
theorem Walk.alike (h : p.Walk c c' done rest failure)
    (hnodup : ((done ++ rest).map fun t => p.keyOf t.2).Nodup) {t : Component × Resource}
    (ht : t ∈ rest) : p.Alike t.2 c c' := by
  refine ⟨h.within.failures, h.within.objects _ ?_⟩
  rintro ⟨t', ht', heq⟩
  rw [List.map_append, List.nodup_append] at hnodup
  exact hnodup.2.2 _ (List.mem_map.2 ⟨t', ht', rfl⟩) _ (List.mem_map.2 ⟨t, ht, rfl⟩) heq

/-- After a walk, another one gets as far and writes nothing. -/
theorem Walk.idle (hwalk : p.Walk c c' done rest failure) (h : p.Fit) (hc : c.Orderly) {x : Cluster}
    (hx : x.Orderly) (hobjects : x.objects = c'.objects) (hfailures : x.failures = c'.failures)
    (hts : ∀ t ∈ done ++ rest, t.2 ∈ p.deployed)
    (hnodup : ((done ++ rest).map fun t => p.keyOf t.2).Nodup) :
    ∃ y, p.build (done ++ rest) x = .ok failure y ∧ x.Called y := by
  have hsame (r : Resource) : p.Alike r c' x := ⟨hfailures, by rw [hobjects]⟩
  refine build_idle h hx hts (fun t ht => ?_) ((hwalk.halts.congr fun t ht =>
    hwalk.alike hnodup ht).congr fun t _ => hsame t.2)
  exact (hsame t.2).verdict.trans ((hwalk.reached t ht).verdict h hc
    (hts t (List.mem_append_left _ ht)) hwalk.within.failures)

end

end Pass

end NodeFeatureOperator
