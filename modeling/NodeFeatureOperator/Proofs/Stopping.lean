import NodeFeatureOperator.Proofs.Granting
import NodeFeatureOperator.Proofs.Outcome

/-!
# Where a pass stops

A pass over an instance that is to stay is two loops, one over the components and one over the
resources of each, and a failure ends both. The pass gets past some resources of its deployment, and
what raises its error is the application of the next one or, when there is none, the report
(`Pass.runComponents_halts`). Everything in front of that place is stored as its own application has
left it, and nothing behind it is touched or even asked for (`Pass.Stopped`,
`Context.reconcile_stops`). That every object is stored under its own key is how the cluster files
its objects: no call on the store makes it otherwise.
-/

namespace NodeFeatureOperator

open Cluster StoreM

namespace Pass

variable {p : Pass} {c c' c₁ : Cluster} {e : Error} {r : Resource}
  {rs done rest : List Resource}

/-! ## Two loops -/

/-- What raises the error of a pass that has these resources before it: the application of the
first, or the report if there are none. -/
def Raises (p : Pass) (c : Cluster) (e : Error) (c' : Cluster) : List Resource → Prop
  | [] => p.runComponent .status c = .error e c'
  | r :: _ => p.apply r c = .error e c'

/-- Where a pass fails, it has got past some resources, and the error is the one that was raised
there, which is then reported. -/
theorem runComponents_halts (h : p.runComponents p.components c = .error e c') :
    ∃ done rest k c₁ c₂, p.deployed = done ++ rest ∧ p.applyAll done c = .ok () c₁ ∧
      p.Raises c₁ e c₂ rest ∧ p.reportFailure k e c₂ = .ok () c' := by
  obtain ⟨before, k, after, c₁, c₂, hchain, hbefore, hfailed, hreported⟩ := runComponents_error h
  have hdone := applyAll_of_runComponents (ne_status_of_mem_before hchain) hbefore
  have hdeployed : p.deployed =
      before.flatMap p.managed ++ (p.managed k ++ after.flatMap p.managed) := by
    rw [deployed, hchain, List.flatMap_append, List.flatMap_cons]
  by_cases hk : k = .status
  · subst hk
    -- Nothing comes after the report, or the report would be in front of something.
    cases after with
    | nil => exact ⟨_, [], .status, c₁, c₂, hdeployed, hdone, hfailed, hreported⟩
    | cons k after =>
      have hsplit : p.components = (before ++ [.status]) ++ k :: after := by simp [hchain]
      exact absurd rfl (ne_status_of_mem_before hsplit .status (by simp))
  · rw [runComponent_of_ne hk, applyAll_eq] at hfailed
    obtain ⟨front, r, behind, c₃, hmanaged, hfront, hraised⟩ := each_error hfailed
    rw [← applyAll_eq] at hfront
    refine ⟨before.flatMap p.managed ++ front, r :: (behind ++ after.flatMap p.managed), k, c₃, c₂,
      ?_, ?_, hraised, hreported⟩
    · rw [hdeployed, hmanaged]
      simp
    · rw [applyAll_append]
      exact (bind_of_ok hdone).trans hfront

/-! ## What a stopped pass leaves -/

theorem applyAll_logs {V : Verb → Key → Prop} (h : p.templates.Sound)
    (hV : ∀ r ∈ rs, ∀ verb ≠ .delete, V verb (p.keyOf r)) (hkeyed : c.Keyed) :
    Logs V c ((p.applyAll rs : StoreM Cluster Unit).after c) :=
  applyAll_keeps (fun r hr _ hkeyed => apply_logs h (hV r hr) hkeyed) hkeyed

/-- What raises an error writes nothing but perhaps a report. -/
theorem Raises.serves (h : p.Raises c e c' rest) : Serves (fun _ => False) c c' := by
  cases rest with
  | nil => exact (p.updateStatus_serves.bind fun _ => Keeps.pure _).of_error h
  | cons r rest => exact (apply_failed (K := fun _ => False) h).toWithin.serves

/-- What raises an error calls about the resource that comes next only, and otherwise about those
that are deployed. -/
theorem Raises.logs {V : Verb → Key → Prop} (h : p.Raises c e c' rest) (hsound : p.templates.Sound)
    (hkeyed : c.Keyed) (hnext : ∀ r ∈ rest.head?, ∀ verb ≠ .delete, V verb (p.keyOf r))
    (hreport : rest = [] → ∀ r ∈ p.deployed, V .get (p.keyOf r)) : Logs V c c' := by
  cases rest with
  | nil =>
    have hstatus : Keeps (Logs V) (p.runComponent .status : StoreM Cluster Unit) :=
      runStatus_keeps (fun r hr => get_logs (hreport rfl r hr)) fun j _ => updateStatus_logs j
    exact hstatus.of_error h
  | cons r rest =>
    have hlogs := apply_logs hsound (hnext r rfl) hkeyed
    rwa [after_error h] at hlogs

/-- A call about the object of a resource in front of which the pass does not stop, and not for its
deletion. -/
def Reaches (p : Pass) (done rest : List Resource) (verb : Verb) (k : Key) : Prop :=
  verb ≠ .delete ∧ k ∈ (done ++ rest.take 1).map p.keyOf ∧ k ∉ (rest.drop 1).map p.keyOf

/-- A pass has got past some resources of its deployment and has stopped with an error at the next
one, or at the report if there is none. -/
structure Stopped (p : Pass) (c c' : Cluster) (done rest : List Resource) (e : Error) : Prop where
  deployed : p.deployed = done ++ rest
  /-- The error is raised where the applications that have succeeded have led. -/
  raised : ∃ c₁ c₂, p.applyAll done c = .ok () c₁ ∧ p.Raises c₁ e c₂ rest
  /-- Everything the pass has got past is stored as its own application has left it. -/
  applied : ∀ before r after, done = before ++ r :: after → ∃ c₁ a c₂ o,
    p.applyAll before c = .ok () c₁ ∧ p.apply r c₁ = .ok a c₂ ∧
      Table.get? c₂.objects (p.keyOf r) = some o ∧ Table.get? c'.objects (p.keyOf r) = some o
  /-- From there on everything is as it was, and so is all that is not deployed. -/
  later : ∀ r ∈ rest, Table.get? c'.objects (p.keyOf r) = Table.get? c.objects (p.keyOf r)
  others : ∀ k, k ∉ p.deployed.map p.keyOf → Table.get? c'.objects k = Table.get? c.objects k
  /-- The pass calls about nothing behind the place where it stops, and it deletes nothing. -/
  calls : Logs (p.Reaches done rest) c c'

/-- Where the keys of resources differ, each is stored as its own application has left it. -/
theorem exists_applied (h : p.templates.Sound) (hkeyed : c.Keyed) {before after : List Resource}
    (hnodup : ((before ++ r :: after).map p.keyOf).Nodup)
    (hrun : (p.applyAll (before ++ r :: after) : StoreM Cluster Unit) c = .ok () c') :
    ∃ c₁ a c₂ o, p.applyAll before c = .ok () c₁ ∧ p.apply r c₁ = .ok a c₂ ∧
      Table.get? c₂.objects (p.keyOf r) = some o ∧ Table.get? c'.objects (p.keyOf r) = some o := by
  rw [applyAll_append] at hrun
  obtain ⟨_, c₁, hbefore, hrest⟩ := bind_ok.1 hrun
  obtain ⟨a, c₂, happlied, hafter⟩ := bind_ok.1 hrest
  have hkeyed₁ := ((p.applyAll_within before).of_ok hbefore).keyed hkeyed
  have hkeyed₂ := ((p.apply_within r).of_ok happlied).keyed hkeyed₁
  obtain ⟨-, o, -, ho, -⟩ := apply_stored h hkeyed₁ happlied
  refine ⟨c₁, a, c₂, o, hbefore, happlied, ho, ?_⟩
  rw [List.map_append, List.map_cons] at hnodup
  have hfresh := (List.nodup_cons.1 (List.nodup_append.1 hnodup).2.1).1
  rw [((p.applyAll_touches h after).of_ok hafter hkeyed₂).objects _ hfresh]
  exact ho

theorem reaches_of_mem (hnodup : ((done ++ rest).map p.keyOf).Nodup) (hr : r ∈ done ++ rest.take 1)
    {verb : Verb} (hverb : verb ≠ .delete) : p.Reaches done rest verb (p.keyOf r) := by
  refine ⟨hverb, List.mem_map_of_mem hr, fun hmem => ?_⟩
  have hsplit : done ++ rest = (done ++ rest.take 1) ++ rest.drop 1 := by
    rw [List.append_assoc, List.take_append_drop]
  rw [hsplit, List.map_append] at hnodup
  exact (List.nodup_append.1 hnodup).2.2 _ (List.mem_map_of_mem hr) _ hmem rfl

/-- Up to the error a pass calls about what it has got past and what comes next. -/
theorem Raises.reaches (h : p.Raises c₁ e c' rest) (hsound : p.templates.Sound) (hkeyed : c.Keyed)
    (hdeployed : p.deployed = done ++ rest)
    (hdone : (p.applyAll done : StoreM Cluster Unit) c = .ok () c₁) :
    Logs (p.Reaches done rest) c c' := by
  have hnodup := p.deployed_keys_nodup
  rw [hdeployed] at hnodup
  have hbefore : Logs (p.Reaches done rest) c ((p.applyAll done : StoreM Cluster Unit).after c) :=
    applyAll_logs hsound (fun r hr verb => reaches_of_mem hnodup (List.mem_append_left _ hr)) hkeyed
  rw [after_ok hdone] at hbefore
  refine trans_of _ hbefore (h.logs hsound (((p.applyAll_within done).of_ok hdone).keyed hkeyed)
    (fun r hr verb => reaches_of_mem hnodup (List.mem_append_right _ ?_)) fun hnil r hr => ?_)
  · cases rest with
    | nil => cases hr
    | cons r' rest =>
      obtain rfl := Option.some.inj hr
      simp
  · subst hnil
    exact reaches_of_mem hnodup (hdeployed ▸ hr) nofun

theorem runComponents_stopped (h : p.templates.Sound) (hkeyed : c.Keyed)
    (hrun : p.runComponents p.components c = .error e c') :
    ∃ done rest, p.Stopped c c' done rest e := by
  obtain ⟨done, rest, k, c₁, c₂, hdeployed, hdone, hraised, hreported⟩ := runComponents_halts hrun
  have hnodup := p.deployed_keys_nodup
  rw [hdeployed, List.map_append] at hnodup
  obtain ⟨hfront, -, hapart⟩ := List.nodup_append.1 hnodup
  -- What stands between the applications that have succeeded and the end leaves objects alone.
  have hend : ∀ key, Table.get? c'.objects key = Table.get? c₁.objects key := fun key =>
    (hraised.serves.trans ((p.reportError_serves _ _).of_ok hreported)).objects key id
  have hkept : ∀ key, key ∉ done.map p.keyOf →
      Table.get? c'.objects key = Table.get? c.objects key := fun key hkey =>
    (hend key).trans (((p.applyAll_touches h done).of_ok hdone hkeyed).objects key hkey)
  refine ⟨done, rest, hdeployed, ⟨c₁, c₂, hdone, hraised⟩, ?_, fun r hr => hkept _ fun hmem => ?_,
    fun key hkey => hkept key fun hmem => hkey ?_, ?_⟩
  · rintro before r after rfl
    obtain ⟨c₃, a, c₄, o, hbefore, happlied, ho, hstored⟩ := exists_applied h hkeyed hfront hdone
    exact ⟨c₃, a, c₄, o, hbefore, happlied, ho, (hend _).trans hstored⟩
  · exact hapart _ hmem _ (List.mem_map_of_mem hr) rfl
  · rw [hdeployed, List.map_append]
    exact List.mem_append_left _ hmem
  · exact trans_of _ (hraised.reaches h hkeyed hdeployed hdone)
      ((reportError_keeps (fun _ _ => updateStatus_logs _) _ _).of_ok hreported)

end Pass

namespace Context

/-- A pass that ends with an error has applied everything in front of the place where the error was
raised, and nothing from there on is any different. -/
theorem reconcile_stops (settings : Settings) (op : Operator Cluster) (i : Instance)
    (hkeyed : op.store.Keyed) (hi : Table.get? op.store.instances i.id = some i)
    (hlive : i.isDeleting = false) (hfinalizer : i.hasFinalizer = true) (e : Error) :
    let ctx : Context := { settings }
    let pass : StoreM (Operator Cluster) Action := ctx.reconcileInstance i.id
    let read := op.store.record (.one .get i.id)
    pass.answer op = .error e →
      ∃ done rest, (ctx.pass i).Stopped read (pass.after op).store done rest e := by
  intro ctx pass read herror
  have htracks := Context.reconcileInstance_tracks (σ := Cluster) ctx i.id
  have hanswer : (ctx.visit i.id).answer op.store = .error e :=
    (htracks.answer_eq op).symm.trans herror
  have hrun := run_of_failure hanswer
  rw [← htracks.store_after op, ctx.visit_of_live hi hlive, livePass_of_held hfinalizer] at hrun
  rcases bind_error.1 hrun with hfailed | ⟨_, _, -, hrequeue⟩
  · exact Pass.runComponents_stopped (p := ctx.pass i) Registry.own_sound hkeyed hfailed
  · cases hrequeue

/-- The role of the master cannot be created, so there is its account, but no binding. -/
theorem reconcile_stops_of_refused :
    let i : Instance := { Instance.bare ⟨"nfd", "nfd"⟩ with
      metadata :=
        { name := some "nfd", ns := some "nfd", uid := some "uid-1",
          finalizers := some [Finalizer.own] } }
    let ctx : Context := { settings := {} }
    let p := ctx.pass i
    let role : Resource := ⟨.clusterRole, "nfd-master"⟩
    let op : Operator Cluster :=
      { store := { instances := [(i.id, i)], failures := [((.create, p.keyOf role), 500)] } }
    let pass : StoreM (Operator Cluster) Action := ctx.reconcileInstance i.id
    let e : Error := .object "create" (p.keyOf role) (refusal 500 "Injected")
    pass.answer op = .error e ∧ ∃ done rest,
      p.Stopped (op.store.record (.one .get i.id)) (pass.after op).store done rest e := by
  intro i ctx p role op pass e
  have herror : pass.answer op = .error e := by decide +kernel
  have hkeyed : op.store.Keyed := List.forall_mem_nil _
  exact ⟨herror, reconcile_stops {} op i hkeyed (by decide +kernel) rfl (by decide) e herror⟩

end Context

end NodeFeatureOperator
