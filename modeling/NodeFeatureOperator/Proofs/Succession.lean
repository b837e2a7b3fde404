import NodeFeatureOperator.Proofs.Applying
import NodeFeatureOperator.Proofs.Yielding

/-!
# The last specification counts

An instance may be edited between two applications of a resource. Nothing of the earlier
specification is left in the object after the later one: the object is what would have been created
for the later one alone (`Pass.Made`). This holds after every application to an object of that form
(`Pass.Made.apply`), so it holds after any number of them (`Pass.apply_succession`).
-/

namespace NodeFeatureOperator

open Cluster StoreM

/-- Two states of one instance: it is in the same place, with the same name and the same uid. -/
structure Instance.Same (i j : Instance) : Prop where
  ns : i.ns = j.ns
  name : i.metadata.name = j.metadata.name
  uid : i.metadata.uid = j.metadata.uid

namespace Instance.Same

variable {i j : Instance}

theorem controllerReference? (h : i.Same j) : i.controllerReference? = j.controllerReference? := by
  unfold Instance.controllerReference?
  rw [h.name, h.uid]

theorem key (h : i.Same j) (r : Resource) : r.key i = r.key j := by
  unfold Resource.key
  rw [h.ns]

theorem symm (h : i.Same j) : j.Same i := ⟨h.ns.symm, h.name.symm, h.uid.symm⟩

theorem trans {k : Instance} (h : i.Same j) (h' : j.Same k) : i.Same k :=
  ⟨h.ns.trans h'.ns, h.name.trans h'.name, h.uid.trans h'.uid⟩

end Instance.Same

namespace ManagedObject

variable {o o' d : ManagedObject} {i j : Instance}

/-- Objects that agree but for their marks differ in nothing else. -/
theorem eq_marked (h : o.marked none none = o'.marked none none) :
    o = o'.marked o.metadata.resourceVersion o.metadata.uid :=
  congrArg (·.marked o.metadata.resourceVersion o.metadata.uid) h

/-- What is laid over an object that is under the control of an instance comes under its control as
well. -/
theorem own_overlay (hsame : i.Same j) (hkind : d.kind = o.kind)
    (ho : o.metadata.ownerReferences = none) (hd : d.metadata.ownerReferences = none)
    (hover : o.overlay d = d) (hown : o.own i = .ok o') : d.own j = .ok (o'.overlay d) := by
  rcases own_cases hown with ⟨hscope, rfl⟩ | ⟨hscope, owner, howner, -, rfl⟩
  · rw [hover]
    exact own_of_clusterScoped (by rwa [hkind])
  · have howner' : j.controllerReference? = some owner := hsame.controllerReference? ▸ howner
    rw [overlay_withOwners, hover, own_of_owner (by rwa [hkind]) howner']
    unfold owners
    rw [ho, hd]
    rfl

end ManagedObject

namespace Pass

variable {p q : Pass} {r : Resource} {c c' : Cluster} {d o : ManagedObject} {e : Error}

/-- Under the key of a resource there is what is created for it where nothing was, but for the
marks; nothing, if nothing can be created. -/
def Made (p : Pass) (r : Resource) (c : Cluster) : Prop :=
  (Table.get? c.objects (p.keyOf r)).map (·.marked none none)
    = (p.goal r none).toOption.map (·.marked none none)

/-- An application that is told what to write leaves just that under its key. -/
theorem Follows.stored (h : p.Follows r c (p.verdict r c)) (hquiet : c.failures = [])
    (hgoal : p.goal r (Table.get? c.objects (p.keyOf r)) = .ok o) :
    ∃ version uid, Table.get? ((p.apply r).after c).objects (p.keyOf r)
      = some (o.marked version uid) := by
  unfold verdict at h
  rw [injected?_of_clear hquiet, hgoal, injected?_of_clear hquiet] at h
  dsimp only at h
  split at h
  · next hfound =>
    obtain ⟨a, c', hrun, calls, rfl⟩ := h
    rw [after_ok hrun]
    exact ⟨o.metadata.resourceVersion, o.metadata.uid, hfound⟩
  · obtain ⟨a, c', version, uid, hrun, hput, -⟩ := h
    rw [after_ok hrun]
    exact ⟨version, uid, hput⟩

/-- What nothing is to be made of stays as it is. -/
theorem Follows.kept (h : p.Follows r c (p.verdict r c)) (hquiet : c.failures = [])
    (hgoal : p.goal r (Table.get? c.objects (p.keyOf r)) = .error e) :
    ((p.apply r).after c).objects = c.objects := by
  unfold verdict at h
  rw [injected?_of_clear hquiet, hgoal] at h
  obtain ⟨c', hrun, calls, rfl⟩ := h
  rw [after_error hrun]

/-- Where nothing was, there is what is created. -/
theorem made_of_missing (hd : p.Desires r d) (hquiet : c.failures = [])
    (hfound : Table.get? c.objects (p.keyOf r) = none) : p.Made r ((p.apply r).after c) := by
  have hfollows := follows_of_missing hd (injected?_of_clear hquiet ..) hfound
  unfold Made
  cases hgoal : p.goal r none with
  | error e =>
    rw [hfollows.kept hquiet (by rw [hfound, hgoal]), hfound]
    rfl
  | ok o =>
    obtain ⟨version, uid, hput⟩ := hfollows.stored hquiet (by rw [hfound, hgoal])
    rw [hput]
    rfl

/-- The pass is over a state of an instance and deploys a resource by a template. -/
structure Renders (p : Pass) (r : Resource) (t : ManagedObject) (i : Instance) : Prop where
  desires : p.Desires r (t.setDesired p.subject p.image)
  spec : p.subject.spec.WellFormed
  same : p.subject.Same i

section

variable {t : ManagedObject} {i : Instance}

/-- What was made for one state of the instance becomes what is made for the next one. -/
theorem Made.apply (h : q.Made r c) (htemplate : t.IsTemplate r) (hwish : t.Wish)
    (hjob : t.kind ≠ .job) (hq : q.Renders r t i) (hp : p.Renders r t i)
    (hquiet : c.failures = []) : p.Made r ((p.apply r).after c) := by
  have hsame : q.subject.Same p.subject := hq.same.trans hp.same.symm
  have hkind : (t.setDesired p.subject p.image).kind = (t.setDesired q.subject q.image).kind :=
    hp.desires.stands.kind.trans hq.desires.stands.kind.symm
  unfold Made at h
  rw [show q.keyOf r = p.keyOf r from hsame.key r, hq.desires.goal_none] at h
  cases hown : (t.setDesired q.subject q.image).own q.subject with
  | error e =>
    rw [hown] at h
    exact made_of_missing hp.desires hquiet (Option.map_eq_none_iff.1 h)
  | ok o =>
    rw [hown] at h
    obtain ⟨live, hfound, hlive⟩ := Option.map_eq_some_iff.1 h
    obtain ⟨version, uid, rfl⟩ : ∃ version uid, live = o.marked version uid :=
      ⟨_, _, ManagedObject.eq_marked hlive⟩
    have hlivewf : (o.marked version uid).WellFormed :=
      (hq.desires.wish.wellFormed.own hown).marked version uid
    have hlivekind : (o.marked version uid).kind = r.kind :=
      (ManagedObject.own_kind hown).trans hq.desires.stands.kind
    -- Laid over the object that is there, the desired one leaves nothing of it but the marks.
    have hown' : (t.setDesired p.subject p.image).own p.subject
        = .ok (o.overlay (t.setDesired p.subject p.image)) :=
      ManagedObject.own_overlay hsame hkind (htemplate.desired_unowned ..)
        (htemplate.desired_unowned ..) (ManagedObject.setDesired_overlay hwish hjob hp.spec ..) hown
    have hgoal : p.goal r (Table.get? c.objects (p.keyOf r))
        = .ok ((o.overlay (t.setDesired p.subject p.image)).marked version uid) := by
      rw [hfound, hp.desires.goal_some hlivewf hlivekind, ManagedObject.overlay_marked]
      exact ManagedObject.own_marked (ManagedObject.own_of_own hown') version uid
    obtain ⟨version', uid', hput⟩ := (follows_of_found hp.desires hlivewf hlivekind
      (injected?_of_clear hquiet ..) hfound).stored hquiet hgoal
    unfold Made
    rw [hput, hp.desires.goal_none, hown']
    rfl

/-- An instance that can own has its objects made. -/
theorem Made.isSome (h : p.Made r c) (htemplate : t.IsTemplate r) (hp : p.Renders r t i)
    (hown : r.kind.clusterScoped = true ∨ p.subject.controllerReference?.isSome) :
    (Table.get? c.objects (p.keyOf r)).isSome := by
  have hmade : ∃ o, p.goal r none = .ok o := by
    rw [hp.desires.goal_none]
    rcases hown with hscope | howner
    · refine ⟨_, ManagedObject.own_of_clusterScoped ?_⟩
      rwa [hp.desires.stands.kind]
    · exact ManagedObject.own_of_unowned howner (htemplate.desired_unowned ..)
  obtain ⟨o, ho⟩ := hmade
  have hsome := congrArg Option.isSome h
  rwa [Option.isSome_map, ho] at hsome

/-- What becomes of a cluster when one pass after the other applies a resource, whatever comes of
each. -/
def applyInTurn (r : Resource) (ps : List Pass) (c : Cluster) : Cluster :=
  ps.foldl (fun c p => (p.apply r : StoreM Cluster Applied).after c) c

/-- After any number of applications there is what is made for the last state of the instance. -/
theorem applyInTurn_made {ps : List Pass} (htemplate : t.IsTemplate r) (hwish : t.Wish)
    (hjob : t.kind ≠ .job) (hps : ∀ q ∈ ps, q.Renders r t i) (hp : p.Renders r t i)
    (hquiet : c.failures = [])
    (hstart : Table.get? c.objects (p.keyOf r) = none ∨ ∃ q : Pass, q.Renders r t i ∧ q.Made r c) :
    p.Made r (applyInTurn r (ps ++ [p]) c) := by
  have hstep {p : Pass} {c : Cluster} (hp : p.Renders r t i) (hquiet : c.failures = [])
      (hstart : Table.get? c.objects (p.keyOf r) = none
        ∨ ∃ q : Pass, q.Renders r t i ∧ q.Made r c) : p.Made r ((p.apply r).after c) := by
    rcases hstart with hfree | ⟨q, hq, hmade⟩
    · exact made_of_missing hp.desires hquiet hfree
    · exact hmade.apply htemplate hwish hjob hq hp hquiet
  induction ps generalizing c with
  | nil => exact hstep hp hquiet hstart
  | cons q ps ih =>
    obtain ⟨hq, hps⟩ := List.forall_mem_cons.1 hps
    have hkey : p.keyOf r = q.keyOf r := (hp.same.trans hq.same.symm).key r
    rw [hkey] at hstart
    exact ih hps ((q.apply_within r c).failures.trans hquiet)
      (Or.inr ⟨q, hq, hstep hq hquiet hstart⟩)

end

end Pass

namespace Registry

variable {r : Resource}

/-- What the components consist of is deployed by templates of the operator that are no jobs. -/
theorem get?_own (hr : r ∈ Component.chain.flatMap Component.resources) :
    ∃ t, Table.get? own.templates r = some t ∧ t.IsTemplate r ∧ t.Wish ∧ t.kind ≠ .job := by
  obtain ⟨t, ht⟩ := Option.isSome_iff_exists.1 (own_complete r hr)
  have htemplate := own_sound r t ht
  have hjob : ∀ r ∈ Component.chain.flatMap Component.resources, r.kind ≠ .job := by decide
  exact ⟨t, ht, htemplate, own_wellFormed r t ht, htemplate.kind ▸ hjob r hr⟩

end Registry

namespace Pass

/-- Whatever an instance has asked for in between, the object of a resource is in the end what one
application for its last state creates where nothing was. In particular, of two desired objects of a
resource the second leaves nothing of the first when it is laid over it. -/
theorem apply_succession {r : Resource} (hr : r ∈ Component.chain.flatMap Component.resources)
    (ps : List Pass) (p : Pass)
    (hps : ∀ q ∈ p :: ps, q.templates = Registry.own ∧ q.subject.spec.WellFormed ∧
      q.subject.Same p.subject)
    (c c' : Cluster) (hquiet : c.failures = []) (hquiet' : c'.failures = [])
    (hfree : Table.get? c.objects (p.keyOf r) = none)
    (hfree' : Table.get? c'.objects (p.keyOf r) = none) :
    let last := applyInTurn r (ps ++ [p]) c
    let once := (p.apply r : StoreM Cluster Applied).after c'
    (Table.get? last.objects (p.keyOf r)).map (·.marked none none)
        = (Table.get? once.objects (p.keyOf r)).map (·.marked none none) ∧
      (r.kind.clusterScoped = true ∨ p.subject.controllerReference?.isSome →
        (Table.get? last.objects (p.keyOf r)).isSome) ∧
      ∀ (i j : Instance) (image image' : String), i.spec.WellFormed → j.spec.WellFormed →
        ∃ live desired, Registry.own.render i r image = .ok live ∧
          Registry.own.render j r image' = .ok desired ∧ live.laidOver desired = .ok desired := by
  intro last once
  obtain ⟨t, ht, htemplate, hwish, hjob⟩ := Registry.get?_own hr
  have hrender (i : Instance) (image : String) :
      Registry.own.render i r image = .ok (t.setDesired i image) := Registry.render_of_get? ht
  have hrenders : ∀ q ∈ p :: ps, q.Renders r t p.subject := by
    intro q hq
    obtain ⟨htemplates, hspec, hsame⟩ := hps q hq
    refine ⟨⟨?_, hwish.setDesired hspec q.image, htemplate.desired ..⟩, hspec, hsame⟩
    rw [htemplates]
    exact hrender ..
  obtain ⟨hp, hps⟩ := List.forall_mem_cons.1 hrenders
  have hlast : p.Made r last := applyInTurn_made htemplate hwish hjob hps hp hquiet (Or.inl hfree)
  have honce : p.Made r once := made_of_missing hp.desires hquiet' hfree'
  refine ⟨hlast.trans honce.symm, hlast.isSome htemplate hp, fun i j image image' hi hj => ?_⟩
  refine ⟨_, _, hrender i image, hrender j image', ?_⟩
  have hkind : (t.setDesired j image').kind = (t.setDesired i image).kind :=
    (htemplate.desired j image').kind.trans (htemplate.desired i image).kind.symm
  rw [ManagedObject.laidOver_eq (hwish.setDesired hi image).wellFormed (hwish.setDesired hj image')
    hkind, ManagedObject.setDesired_overlay hwish hjob hj]

/-- The second configuration file of the workers was there for a while. -/
theorem apply_succession_of_dropped_file :
    let i : Instance := { Instance.bare ⟨"nfd", "nfd"⟩ with
      metadata := { name := some "nfd", ns := some "nfd", uid := some "uid-1" } }
    let i' : Instance := { i with spec := { customConfig := some "a: b" } }
    let p : Pass := .ofInstance {} Registry.own i
    let p' : Pass := .ofInstance {} Registry.own i'
    let r : Resource := ⟨.configMap, "nfd-worker"⟩
    (Table.get? (applyInTurn r [p', p] {}).objects (p.keyOf r)).map (·.marked none none)
        = (Table.get? ((p.apply r).after ({} : Cluster)).objects (p.keyOf r)).map
          (·.marked none none) ∧
      (Table.get? (applyInTurn r [p', p] {}).objects (p.keyOf r)).isSome := by
  intro i i' p p' r
  have hps : ∀ q ∈ [p, p'], q.templates = Registry.own ∧ q.subject.spec.WellFormed ∧
      q.subject.Same p.subject := by
    simp only [List.forall_mem_cons, List.not_mem_nil, false_implies, implies_true, and_true]
    exact ⟨⟨rfl, .of_unset rfl, rfl, rfl, rfl⟩, rfl, .of_unset rfl, rfl, rfl, rfl⟩
  have hsuccession := apply_succession (r := r) (by decide) [p'] p hps {} {} rfl rfl rfl rfl
  exact ⟨hsuccession.1, hsuccession.2.1 (Or.inr rfl)⟩

end Pass

end NodeFeatureOperator
