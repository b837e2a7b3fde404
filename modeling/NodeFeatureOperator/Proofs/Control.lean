import NodeFeatureOperator.Proofs.Classification
import NodeFeatureOperator.Proofs.Effect
import NodeFeatureOperator.Proofs.Overlay

/-!
# Taking control of an object

An object is taken control of where it stands: its list of owners is created before anybody looks
for a rival in it. `ManagedObject.takeControl` does this step by step on an object that it changes,
and `takeControl_run` shows that the object is as it was whenever a step fails. The main result
(`ManagedObject.own_exact`) says when taking control is refused and what becomes of the owners
otherwise, and that doing it again changes nothing.
-/

namespace NodeFeatureOperator

namespace OwnerReference

variable {owner : OwnerReference} {refs : List OwnerReference}

/-- References before and after an owner puts its own among them: in place of the first with its
uid, at the end if there is none. -/
inductive Puts (owner : OwnerReference) : List OwnerReference → List OwnerReference → Prop where
  | renewed (before : List OwnerReference) (old : OwnerReference) (after : List OwnerReference)
      (hbefore : ∀ r ∈ before, r.uid ≠ owner.uid) (hold : old.uid = owner.uid) :
      Puts owner (before ++ old :: after) (before ++ owner :: after)
  | appended (refs : List OwnerReference) (hrefs : ∀ r ∈ refs, r.uid ≠ owner.uid) :
      Puts owner refs (refs ++ [owner])

theorem Puts.cons {refs' : List OwnerReference} {r : OwnerReference} (hr : r.uid ≠ owner.uid)
    (h : Puts owner refs refs') : Puts owner (r :: refs) (r :: refs') := by
  cases h with
  | renewed before old after hbefore hold =>
    exact .renewed (r :: before) old after (List.forall_mem_cons.2 ⟨hr, hbefore⟩) hold
  | appended _ hrefs => exact .appended (r :: refs) (List.forall_mem_cons.2 ⟨hr, hrefs⟩)

theorem puts_put (owner : OwnerReference) (refs : List OwnerReference) :
    Puts owner refs (put owner refs) := by
  induction refs with
  | nil => exact .appended [] nofun
  | cons r refs ih =>
    rw [put]
    by_cases h : r.uid = owner.uid
    · rw [if_pos h]
      exact .renewed [] r refs nofun h
    · rw [if_neg h]
      exact ih.cons h

/-- The number of references with a uid. -/
def countOf (uid : String) (refs : List OwnerReference) : Nat := refs.countP fun r => r.uid = uid

theorem Puts.countOf {refs' : List OwnerReference} (h : Puts owner refs refs') :
    countOf owner.uid refs' = max 1 (countOf owner.uid refs) := by
  unfold OwnerReference.countOf
  cases h with
  | renewed before old after hbefore hold =>
    simp only [List.countP_append, List.countP_cons, hold, decide_true, if_true]
    omega
  | appended _ hrefs =>
    have hnone : refs.countP (fun r => decide (r.uid = owner.uid)) = 0 :=
      List.countP_eq_zero.2 fun r hr => by simpa using hrefs r hr
    simp [List.countP_append, hnone]

end OwnerReference

namespace ManagedObject

variable {o o' : ManagedObject} {i : Instance} {owner other : OwnerReference}

/-! ## Step by step -/

/-- Puts an owner among the owners of the object that the computation works on. -/
def putOwner (owner : OwnerReference) : StoreM ManagedObject Unit := do
  modify fun o => o.withOwners o.owners
  let o ← get
  match o.owners.find? (·.isForeignController owner.uid) with
  | some other =>
    throw (.ownerReference o.key ("already controlled by " ++ other.kind ++ " " ++ other.name))
  | none => set (o.withOwners (owner.put o.owners))

/-- Takes control of the object that the computation works on. -/
def takeControl (i : Instance) : StoreM ManagedObject Unit := do
  let o ← get
  if o.kind.clusterScoped then return ()
  else
    match i.controllerReference? with
    | none => throw (.ownerReference o.key "the instance has no uid")
    | some owner => putOwner owner

/-- Where there is an owner there was a list of owners. -/
theorem withOwners_owners (h : other ∈ o.owners) : o.withOwners o.owners = o := by
  obtain ⟨kind, names, metadata, body⟩ := o
  unfold owners at h
  cases hrefs : metadata.ownerReferences with
  | none =>
    simp only [hrefs, Option.getD_none, List.not_mem_nil] at h
  | some refs =>
    unfold withOwners owners mapMetadata
    simp only [hrefs, Option.getD_some]
    rw [← hrefs]

theorem putOwner_run (owner : OwnerReference) (o : ManagedObject) :
    putOwner owner o =
      match o.owners.find? (·.isForeignController owner.uid) with
      | some other => .error (.ownerReference o.key
          ("already controlled by " ++ other.kind ++ " " ++ other.name)) o
      | none => .ok () (o.withOwners (owner.put o.owners)) := by
  let listed := o.withOwners o.owners
  change (match listed.owners.find? (·.isForeignController owner.uid) with
    | some _ => _
    | none => _ : StoreM ManagedObject Unit) listed = _
  have howners : listed.owners = o.owners := rfl
  rw [howners]
  cases hfind : o.owners.find? (·.isForeignController owner.uid) with
  | some other =>
    -- A rival stands in the list, so creating the list has changed nothing.
    have hlisted : listed = o := withOwners_owners (List.mem_of_find?_eq_some hfind)
    rw [hlisted]
    rfl
  | none => rfl

/-- Taking control gives what `own` gives. Where `own` fails it fails, and leaves the object alone. -/
theorem takeControl_run (i : Instance) (o : ManagedObject) :
    takeControl i o =
      match o.own i with
      | .ok o' => .ok () o'
      | .error e => .error e o := by
  change (if o.kind.clusterScoped then _ else _ : StoreM ManagedObject Unit) o = _
  cases hscope : o.kind.clusterScoped with
  | true =>
    rw [own_of_clusterScoped hscope]
    rfl
  | false =>
    cases howner : i.controllerReference? with
    | none =>
      rw [own_of_no_owner howner hscope]
      rfl
    | some owner =>
      rw [own_of_owner hscope howner]
      change putOwner owner o = _
      rw [putOwner_run]
      cases o.owners.find? (·.isForeignController owner.uid) <;> rfl

/-! ## What comes of it -/

/-- A reference names a controller, and it is not the instance. -/
def Rivals (i : Instance) (r : OwnerReference) : Prop :=
  r.controller = some true ∧ some r.uid ≠ i.metadata.uid

/-- How taking control of an object of a namespace ends. -/
structure Control (o : ManagedObject) (i : Instance)
    (result : EStateM.Result Error ManagedObject Unit) : Prop where
  refused_iff : (∃ e o', result = .error e o') ↔
    i.metadata.name = none ∨ i.metadata.uid = none ∨ ∃ r ∈ o.owners, Rivals i r
  intact : ∀ e o', result = .error e o' → o' = o
  nameless : i.metadata.name = none ∨ i.metadata.uid = none →
    result = .error (.ownerReference o.key "the instance has no uid") o
  rivalled : ∀ name uid other, i.metadata.name = some name → i.metadata.uid = some uid →
    IsFirst (Rivals i) o.owners other →
    result = .error (.ownerReference o.key
      ("already controlled by " ++ other.kind ++ " " ++ other.name)) o
  granted : ∀ name uid, i.metadata.name = some name → i.metadata.uid = some uid →
    (∀ r ∈ o.owners, ¬ Rivals i r) → ∃ refs,
      OwnerReference.Puts ⟨Instance.apiVersion, none, some true, Instance.kindText, name, uid⟩
        o.owners refs ∧
      result = .ok () { o with metadata := { o.metadata with ownerReferences := some refs } } ∧
      OwnerReference.countOf uid refs = max 1 (OwnerReference.countOf uid o.owners)

theorem controllerReference?_eq_none :
    i.controllerReference? = none ↔ i.metadata.name = none ∨ i.metadata.uid = none := by
  unfold Instance.controllerReference?
  cases i.metadata.name with
  | none => simp
  | some name => cases i.metadata.uid <;> simp

theorem controllerReference?_of_known {name uid : String} (hname : i.metadata.name = some name)
    (huid : i.metadata.uid = some uid) : i.controllerReference? =
      some ⟨Instance.apiVersion, none, some true, Instance.kindText, name, uid⟩ := by
  unfold Instance.controllerReference?
  rw [hname, huid]
  rfl

theorem rivals_iff (howner : i.controllerReference? = some owner) (r : OwnerReference) :
    r.isForeignController owner.uid = true ↔ Rivals i r := by
  unfold OwnerReference.isForeignController Rivals
  rw [uid_of_controllerReference? howner]
  simp

theorem takeControl_nameless (hscope : o.kind.clusterScoped = false)
    (howner : i.controllerReference? = none) :
    takeControl i o = .error (.ownerReference o.key "the instance has no uid") o := by
  rw [takeControl_run, own_of_no_owner howner hscope]

theorem takeControl_rivalled (hscope : o.kind.clusterScoped = false)
    (howner : i.controllerReference? = some owner) (hother : IsFirst (Rivals i) o.owners other) :
    takeControl i o = .error (.ownerReference o.key
      ("already controlled by " ++ other.kind ++ " " ++ other.name)) o := by
  rw [takeControl_run, own_of_owner hscope howner, (isFirst_iff (rivals_iff howner)).1 hother]

theorem takeControl_granted (hscope : o.kind.clusterScoped = false)
    (howner : i.controllerReference? = some owner) (hnone : ∀ r ∈ o.owners, ¬ Rivals i r) :
    takeControl i o = .ok () (o.withOwners (owner.put o.owners)) := by
  have hfind : o.owners.find? (·.isForeignController owner.uid) = none :=
    List.find?_eq_none.2 fun r hr hforeign => hnone r hr ((rivals_iff howner r).1 hforeign)
  rw [takeControl_run, own_of_owner hscope howner, hfind]

theorem takeControl_control (hscope : o.kind.clusterScoped = false) :
    Control o i (takeControl i o) where
  refused_iff := by
    rw [← or_assoc, ← controllerReference?_eq_none]
    cases howner : i.controllerReference? with
    | none => simp [takeControl_nameless hscope howner]
    | some owner =>
      by_cases hrival : ∃ r ∈ o.owners, Rivals i r
      · obtain ⟨other, hother⟩ := exists_isFirst hrival
        simp [takeControl_rivalled hscope howner hother, hrival]
      · have hnone : ∀ r ∈ o.owners, ¬ Rivals i r := fun r hr hrivals => hrival ⟨r, hr, hrivals⟩
        simp [takeControl_granted hscope howner hnone, hrival]
  intact e o' h := by
    rw [takeControl_run] at h
    split at h
    · cases h
    · cases h
      rfl
  nameless h := takeControl_nameless hscope (controllerReference?_eq_none.2 h)
  rivalled name uid other hname huid hother :=
    takeControl_rivalled hscope (controllerReference?_of_known hname huid) hother
  granted name uid hname huid hnone := by
    have howner := controllerReference?_of_known hname huid
    have htaken := takeControl_granted hscope howner hnone
    have hputs := OwnerReference.puts_put
      ⟨Instance.apiVersion, none, some true, Instance.kindText, name, uid⟩ o.owners
    exact ⟨_, hputs, htaken, hputs.countOf⟩

theorem takeControl_again (h : takeControl i o = .ok () o') : takeControl i o' = .ok () o' := by
  rw [takeControl_run] at h
  split at h
  · next hown =>
    cases h
    rw [takeControl_run, own_of_own hown]
  · cases h

theorem each_takeControl (h : takeControl i o = .ok () o) (n : Nat) :
    StoreM.each takeControl (List.replicate n i) o = .ok () o := by
  induction n with
  | zero => rfl
  | succ n ih => exact (StoreM.bind_of_ok h).trans ih

/-- Taking control of an object.

* An object of the whole cluster is left alone.
* An object of a namespace is refused to an instance without a name or a uid, and to every instance
  if another controls it; then it stays as it was. Otherwise the reference of the instance takes the
  place of the first with its uid, or is added at the end, and nothing else changes.
* To do it several times is the same as to do it once. -/
theorem own_exact (o : ManagedObject) (i : Instance) :
    (takeControl i o =
      match o.own i with
      | .ok o' => .ok () o'
      | .error e => .error e o) ∧
    (o.kind.clusterScoped = true → takeControl i o = .ok () o) ∧
    (o.kind.clusterScoped = false → Control o i (takeControl i o)) ∧
    (∀ o', takeControl i o = .ok () o' → takeControl i o' = .ok () o') ∧
    ∀ n, StoreM.each takeControl (List.replicate (n + 1) i) o = takeControl i o := by
  refine ⟨takeControl_run i o, fun hscope => ?_, takeControl_control, fun o' => takeControl_again,
    fun n => ?_⟩
  · rw [takeControl_run, own_of_clusterScoped hscope]
  · cases hfirst : takeControl i o with
    | ok _ o' =>
      have hrest := each_takeControl (takeControl_again hfirst) n
      exact (StoreM.bind_of_ok hfirst).trans hrest
    | error e o' => exact StoreM.bind_of_error hfirst

/-- Two references have the uid of the instance, and only the first is replaced; the controller of
another object is not. -/
theorem own_exact_of_repeated :
    let reference (controller : Option Bool) (name uid : String) : OwnerReference :=
      ⟨Instance.apiVersion, none, controller, Instance.kindText, name, uid⟩
    let i : Instance := { Instance.bare ⟨"a", "nfd"⟩ with
      metadata := { name := some "nfd", ns := some "a", uid := some "u" } }
    let owned (refs : List OwnerReference) : ManagedObject :=
      { kind := .configMap, names := Kind.configMap.names, body := [],
        metadata := { name := some "x", ns := some "a", ownerReferences := some refs } }
    let o := owned [reference (some false) "blue" "v", reference none "old" "u",
      reference none "older" "u"]
    let taken := owned [reference (some true) "blue" "v"]
    o.kind.clusterScoped = false ∧ (∀ r ∈ o.owners, ¬ Rivals i r) ∧
      (∃ o', takeControl i o = .ok () o' ∧ takeControl i o' = .ok () o' ∧
        OwnerReference.countOf "u" o'.owners = 2) ∧
      takeControl i o = .ok () (owned [reference (some false) "blue" "v",
        reference (some true) "nfd" "u", reference none "older" "u"]) ∧
      ∃ e, takeControl i taken = .error e taken := by
  intro reference i owned o taken
  have hnone : ∀ r ∈ o.owners, ¬ Rivals i r := by
    unfold Rivals
    decide
  obtain ⟨-, -, hcontrol, hagain, -⟩ := own_exact o i
  obtain ⟨refs, -, htaken, hcount⟩ := (hcontrol rfl).granted "nfd" "u" rfl rfl hnone
  obtain ⟨-, -, hrefused, -, -⟩ := own_exact taken i
  have hrival : ∃ r ∈ taken.owners, Rivals i r := ⟨_, List.mem_cons_self, rfl, by decide⟩
  obtain ⟨e, o', he⟩ := (hrefused rfl).refused_iff.2 (Or.inr (Or.inr hrival))
  obtain rfl := (hrefused rfl).intact e o' he
  exact ⟨rfl, hnone, ⟨_, htaken, hagain _ htaken, hcount⟩, rfl, e, he⟩

end ManagedObject

end NodeFeatureOperator
