import NodeFeatureOperator.Proofs.Applying
import NodeFeatureOperator.Proofs.Cluster.Versions

/-!
# One application from end to end

To apply a resource is to look up its object once and to write at most once. This module accounts
for all ways in which that succeeds (`Pass.Succeeds`), and for what an update leaves of the live
object. An update keeps what the desired document has nothing to say about: a path that leaves the
desired document at an object without the next name (`Json.Lacks`) leads to the same before and
after, unless it leads to the version, to the owners or to the files of a configuration
(`Pass.apply_accounted`). It does not keep what lies below a value that the desired document has in
place of an object (`Pass.apply_replaces`).
-/

namespace NodeFeatureOperator

open Cluster StoreM

/-! ## What a document lacks -/

namespace Json

variable {l d j : Json} {name : String} {path : List String}

/-- The document has nothing at the path, and whatever it has on the way there is an object. -/
def Lacks (j : Json) (path : List String) : Prop :=
  j.at? path = none ∧ ∀ front, front <+: path → ∀ v, j.at? front = some v → ∃ fs, v = .obj fs

theorem at?_cons (fs : Fields) (name : String) (path : List String) :
    (Json.obj fs).at? (name :: path) = (Table.get? fs name).bind (·.at? path) := rfl

theorem not_lacks_nil : ¬ j.Lacks [] := fun h => nomatch h.1

theorem lacks_cons : j.Lacks (name :: path) ↔
    ∃ fs, j = .obj fs ∧ ∀ v, Table.get? fs name = some v → v.Lacks path := by
  constructor
  · rintro ⟨habsent, hobjects⟩
    obtain ⟨fs, rfl⟩ := hobjects [] List.nil_prefix j rfl
    refine ⟨fs, rfl, fun v hv => ⟨?_, fun front hfront w hw => ?_⟩⟩
    · rwa [at?_cons, hv] at habsent
    · refine hobjects (name :: front) (List.cons_prefix_cons.2 ⟨rfl, hfront⟩) w ?_
      rwa [at?_cons, hv]
  · rintro ⟨fs, rfl, hlacks⟩
    refine ⟨?_, fun front hfront w hw => ?_⟩
    · rw [at?_cons]
      cases hv : Table.get? fs name with
      | none => rfl
      | some v => exact (hlacks v hv).1
    · cases front with
      | nil => exact ⟨fs, (Option.some.inj hw).symm⟩
      | cons name' front =>
        obtain ⟨rfl, hrest⟩ := List.cons_prefix_cons.1 hfront
        obtain ⟨v, hv, hw⟩ := Option.bind_eq_some_iff.1 ((at?_cons ..).symm.trans hw)
        exact (hlacks v hv).2 front hrest w hw

/-- Whether the document lacks the path. -/
def lacks (j : Json) : List String → Bool
  | [] => false
  | name :: path =>
    match j with
    | .obj fs => (Table.get? fs name).all (lacks · path)
    | _ => false

theorem lacks_iff : j.lacks path = true ↔ j.Lacks path := by
  induction path generalizing j with
  | nil => simp [lacks, not_lacks_nil]
  | cons name path ih =>
    rw [lacks_cons]
    cases j with
    | obj fs => cases hv : Table.get? fs name <;> simp [lacks, hv, ih]
    | _ => simp [lacks]

instance (j : Json) (path : List String) : Decidable (j.Lacks path) :=
  decidable_of_iff (j.lacks path = true) lacks_iff

/-- What a document lacks stays as it is when the document is laid over another. -/
theorem at?_merge_of_lacks (hd : d.ordered = true) (h : d.Lacks path) (l : Json) :
    (merge l d).at? path = l.at? path := by
  induction path generalizing l d with
  | nil => exact absurd h not_lacks_nil
  | cons name path ih =>
    obtain ⟨ds, rfl, hlacks⟩ := lacks_cons.1 h
    have hds := (ordered_obj.1 hd).1
    cases l with
    | obj ls =>
      rw [merge, at?_cons, at?_cons, get?_mergeFields _ _ hds.names_nodup]
      cases hw : Table.get? ds name with
      | none => rfl
      | some w =>
        cases hv : Table.get? ls name with
        | none => exact (hlacks w hw).1
        | some v => exact ih (ordered_of_get? hd hw) (hlacks w hw) v
    | _ => exact h.1

end Json

/-! ## What an update keeps -/

namespace Metadata

/-- Other owners and another version leave what stands under the other names. -/
theorem get?_remark (m : Metadata) (refs : Option (List OwnerReference)) (version : Option String)
    {k : String} (hk : k ∉ ["ownerReferences", "resourceVersion"]) :
    Table.get? (m.revise m.labels m.name m.ns refs version m.uid).toFields k
      = Table.get? m.toFields k := by
  simp only [List.mem_cons, List.not_mem_nil, or_false, not_or] at hk
  obtain ⟨howners, hversion⟩ := hk
  unfold revise toFields
  simp only [Table.get?_append, Json.get?_field, Ne.symm howners, Ne.symm hversion, if_false]

end Metadata

namespace OwnerReference

/-- To put an owner in its place leaves all others in theirs. -/
theorem filter_put (owner : OwnerReference) (refs : List OwnerReference) :
    (put owner refs).filter (·.uid ≠ owner.uid) = refs.filter (·.uid ≠ owner.uid) := by
  induction refs with
  | nil => simp [put]
  | cons r refs ih =>
    rw [put]
    by_cases h : r.uid = owner.uid
    · simp [h]
    · rw [if_neg h, List.filter_cons, List.filter_cons, ih]

end OwnerReference

namespace ManagedObject

variable {o live d : ManagedObject} {i : Instance} {path : List String}

/-- The path leads to the version or to the owners of an object, or to a file of a
configuration. -/
def Renewed (kind : Kind) (path : List String) : Prop :=
  ["metadata", "resourceVersion"] <+: path ∨ ["metadata", "ownerReferences"] <+: path ∨
    kind = .configMap ∧ ["data"] <+: path ∧ path ≠ ["data"]

instance (kind : Kind) (path : List String) : Decidable (Renewed kind path) :=
  inferInstanceAs (Decidable (_ ∨ _ ∨ _))

/-- Apart from what it renews, an object with another laid over it has what it had where the other
one lacks anything. -/
theorem at?_overlay (hlive : live.WellFormed) (hd : d.Wish) (hkind : d.kind = live.kind)
    (hlacks : d.toJson.Lacks path) (hpath : ¬ Renewed d.kind path) :
    (live.overlay d).toJson.at? path = live.toJson.at? path := by
  rw [toJson_overlay hlive hd hkind, Json.at?_merge_of_lacks hd.wellFormed.toJson_ordered hlacks]
  -- The base has other files than the live object, where the desired one has files.
  rcases base_cases live d with ⟨data, hconfig, hdata, hbase⟩ | ⟨-, hbase⟩
  · cases path with
    | nil => exact absurd hlacks Json.not_lacks_nil
    | cons name path =>
      have hname : "data" ≠ name := by
        rintro rfl
        cases path with
        | nil =>
          have hfound : d.toJson.at? ["data"] = some data := by
            rw [toJson_eq, Json.at?_cons, get?_fields (by decide), hdata]
            rfl
          cases hlacks.1.symm.trans hfound
        | cons file path => exact hpath (Or.inr (Or.inr ⟨hconfig, ⟨file :: path, rfl⟩, by simp⟩))
      rw [hbase, fields_insert hlive.sorted (by decide), Json.at?_cons, Table.get?_insert,
        if_neg hname]
      rfl
  · rw [hbase]
    rfl

/-- Other owners and another version change nothing elsewhere in the document. -/
theorem at?_remark (o : ManagedObject) (refs : Option (List OwnerReference))
    (version : Option String) (hhead : path ≠ [] ∧ path ≠ ["metadata"])
    (hpath : ¬ Renewed o.kind path) :
    (o.mapMetadata fun m => m.revise m.labels m.name m.ns refs version m.uid).toJson.at? path
      = o.toJson.at? path := by
  cases path with
  | nil => exact absurd rfl hhead.1
  | cons name path =>
    rw [toJson_eq, toJson_eq, Json.at?_cons, Json.at?_cons]
    by_cases hname : name = "metadata"
    · subst hname
      rw [(get?_fields_head _).2.2, (get?_fields_head _).2.2]
      cases path with
      | nil => exact absurd rfl hhead.2
      | cons name path =>
        have hname : name ∉ ["ownerReferences", "resourceVersion"] := by
          simp only [List.mem_cons, List.not_mem_nil, or_false]
          rintro (rfl | rfl)
          · exact hpath (Or.inr (Or.inl ⟨path, rfl⟩))
          · exact hpath (Or.inl ⟨path, rfl⟩)
        have hsame := o.metadata.get?_remark refs version hname
        unfold mapMetadata
        rw [Option.bind_some, Option.bind_some, Metadata.toJson, Metadata.toJson, Json.at?_cons,
          Json.at?_cons, hsame]
    · have hsame : Table.get? (o.mapMetadata fun m =>
          m.revise m.labels m.name m.ns refs version m.uid).fields name
            = Table.get? o.fields name := by
        unfold fields
        simp only [Table.get?_insert, Ne.symm hname, if_false, mapMetadata]
      rw [hsame]

/-- What an update of a live object keeps of its document. -/
theorem at?_converged (hlive : live.WellFormed) (hd : d.Wish) (hkind : d.kind = live.kind)
    (h : live.converged d i = .ok o) (hlacks : d.toJson.Lacks path) (hpath : ¬ Renewed d.kind path)
    (version : Option String) :
    (o.marked version live.metadata.uid).toJson.at? path = live.toJson.at? path := by
  rw [converged_eq hlive hd hkind] at h
  have hhead : path ≠ [] ∧ path ≠ ["metadata"] := by
    refine ⟨?_, ?_⟩
    · rintro rfl
      exact Json.not_lacks_nil hlacks
    · rintro rfl
      have hfound : d.toJson.at? ["metadata"] = some d.metadata.toJson := by
        rw [toJson_eq, Json.at?_cons, d.get?_fields_head.2.2]
        rfl
      cases hlacks.1.symm.trans hfound
  obtain ⟨refs, hrefs⟩ : ∃ refs, o.marked version live.metadata.uid
      = (live.overlay d).mapMetadata fun m => m.revise m.labels m.name m.ns refs version m.uid := by
    rcases own_cases h with ⟨-, rfl⟩ | ⟨-, owner, -, -, rfl⟩
    · exact ⟨_, rfl⟩
    · exact ⟨_, rfl⟩
  rw [hrefs, at?_remark _ _ _ hhead (hkind ▸ hpath)]
  exact at?_overlay hlive hd hkind hlacks hpath

/-- The owners of an object other than an instance. -/
def foreignOwners (o : ManagedObject) (i : Instance) : List OwnerReference :=
  o.owners.filter fun r => some r.uid ≠ i.metadata.uid

/-- An update leaves the references to other owners. -/
theorem foreignOwners_converged (hlive : live.WellFormed) (hd : d.Wish)
    (hkind : d.kind = live.kind) (h : live.converged d i = .ok o) (version uid : Option String) :
    (o.marked version uid).foreignOwners i = live.foreignOwners i := by
  rw [converged_eq hlive hd hkind] at h
  rcases own_cases h with ⟨-, rfl⟩ | ⟨-, owner, howner, -, rfl⟩
  · rfl
  · have huid := uid_of_controllerReference? howner
    unfold foreignOwners
    simp only [huid, ne_eq, Option.some.injEq]
    exact OwnerReference.filter_put owner live.owners

end ManagedObject

/-! ## How an application ends -/

/-- After a look under the key an object was written there with the verb, and an event told so.
There were no other calls. -/
structure Cluster.Written (c c' : Cluster) (verb : Verb) (key : Key) (o : ManagedObject)
    (i : Instance) : Prop where
  objects : c'.objects = Table.insert c.objects key o
  calls : c'.calls = c.calls ++ [.object .get key, .object verb key, .one .event i.id]
  events : ∃ e, c'.events = c.events ++ [e]

/-- The cluster after an event. -/
def Cluster.announce (c : Cluster) (i : Instance) (e : Event) : Cluster :=
  { c.record (.one .event i.id) with events := c.events ++ [e] }

theorem notify_run (i : Instance) (action : String) (key : Key) (c : Cluster) :
    ∃ e, (notify i action key : StoreM Cluster Unit) c = .ok () (c.announce i e) :=
  ⟨_, bestEffort_run _ _⟩

/-- A write of an object, and the event that tells so. -/
theorem Cluster.written_announce {c : Cluster} {verb : Verb} {key : Key} {o : ManagedObject}
    (hkey : o.key = key) (i : Instance) (e : Event) :
    let called := (c.record (.object .get key)).record (.object verb key)
    c.Written ((called.bump.put o).announce i e) verb key o i := by
  subst hkey
  exact ⟨rfl, by simp [announce, put, bump, record], e, rfl⟩

namespace Pass

variable {p : Pass} {r : Resource} {c c' : Cluster} {a : Applied}

/-- The ways in which an application succeeds, with its answer and with what it leaves. -/
inductive Succeeds (p : Pass) (r : Resource) (c : Cluster) : Applied → Cluster → Prop
  /-- The look-up finds nothing, and the desired object is created under its owner. -/
  | created {d o o' : ManagedObject} {c₁ c₂ c' : Cluster}
      (rendered : p.templates.render p.subject r p.image = .ok d)
      (looked : (Store.get (p.keyOf r) : StoreM Cluster (Option ManagedObject)) c = .ok none c₁)
      (owned : d.own p.subject = .ok o)
      (wrote : (Store.create o : StoreM Cluster ManagedObject) c₁ = .ok o' c₂)
      (told : (notify p.subject "Creating" (p.keyOf r) : StoreM Cluster Unit) c₂ = .ok () c') :
      Succeeds p r c .created c'
  /-- The look-up finds an object, and it is updated, since what it is to become prints
  differently. -/
  | updated {d live o o' : ManagedObject} {c₁ c₂ c' : Cluster}
      (rendered : p.templates.render p.subject r p.image = .ok d)
      (looked : (Store.get (p.keyOf r) : StoreM Cluster (Option ManagedObject)) c =
        .ok (some live) c₁)
      (merged : live.converged d p.subject = .ok o) (differs : o.toJson ≠ live.toJson)
      (wrote : (Store.update o : StoreM Cluster ManagedObject) c₁ = .ok o' c₂)
      (told : (notify p.subject "Updating" (p.keyOf r) : StoreM Cluster Unit) c₂ = .ok () c') :
      Succeeds p r c .updated c'
  /-- The look-up finds an object that prints the same as what it is to become. -/
  | unchanged {d live o : ManagedObject} {c₁ : Cluster}
      (rendered : p.templates.render p.subject r p.image = .ok d)
      (looked : (Store.get (p.keyOf r) : StoreM Cluster (Option ManagedObject)) c =
        .ok (some live) c₁)
      (merged : live.converged d p.subject = .ok o) (same : o.toJson = live.toJson) :
      Succeeds p r c .unchanged c₁

theorem apply_succeeds (h : (p.apply r : StoreM Cluster Applied) c = .ok a c') :
    p.Succeeds r c a c' := by
  unfold Pass.apply at h
  obtain ⟨d, c₁, hd, hlook⟩ := bind_ok.1 h
  obtain ⟨hrender, rfl⟩ := ofExcept_ok_iff.1 hd
  obtain ⟨found, c₂, hget, hwrite⟩ := bind_ok.1 hlook
  cases found with
  | none =>
    obtain ⟨o, c₃, hpassed, hcreate⟩ := bind_ok.1 hwrite
    obtain ⟨hown, rfl⟩ := ofExcept_ok_iff.1 hpassed
    obtain ⟨o', c₄, hwrote, htell⟩ := bind_ok.1 hcreate
    obtain ⟨_, c₅, htold, hanswer⟩ := bind_ok.1 htell
    cases hanswer
    exact .created hrender hget hown hwrote htold
  | some live =>
    obtain ⟨o, c₃, hpassed, hupdate⟩ := bind_ok.1 hwrite
    obtain ⟨hmerged, rfl⟩ := ofExcept_ok_iff.1 hpassed
    split at hupdate
    · next hsame =>
      cases hupdate
      exact .unchanged hrender hget hmerged hsame
    · next hdiffers =>
      obtain ⟨o', c₄, hwrote, htell⟩ := bind_ok.1 hupdate
      obtain ⟨_, c₅, htold, hanswer⟩ := bind_ok.1 htell
      cases hanswer
      exact .updated hrender hget hmerged hdiffers hwrote htold

/-- Each of the ways leads to its answer. -/
theorem Succeeds.run (h : p.Succeeds r c a c') :
    (p.apply r : StoreM Cluster Applied) c = .ok a c' := by
  unfold Pass.apply
  cases h with
  | created rendered looked owned wrote told =>
    refine (bind_of_ok (ofExcept_ok_iff.2 ⟨rendered, rfl⟩)).trans ((bind_of_ok looked).trans ?_)
    refine (bind_of_ok (ofExcept_ok_iff.2 ⟨owned, rfl⟩)).trans ?_
    exact (bind_of_ok wrote).trans (bind_of_ok told)
  | updated rendered looked merged differs wrote told =>
    refine (bind_of_ok (ofExcept_ok_iff.2 ⟨rendered, rfl⟩)).trans ((bind_of_ok looked).trans ?_)
    refine (bind_of_ok (ofExcept_ok_iff.2 ⟨merged, rfl⟩)).trans ?_
    rw [if_neg differs]
    exact (bind_of_ok wrote).trans (bind_of_ok told)
  | unchanged rendered looked merged same =>
    refine (bind_of_ok (ofExcept_ok_iff.2 ⟨rendered, rfl⟩)).trans ((bind_of_ok looked).trans ?_)
    refine (bind_of_ok (ofExcept_ok_iff.2 ⟨merged, rfl⟩)).trans ?_
    rw [if_pos same]
    rfl

/-- What is rendered out of fitting templates is what the resource is to be. -/
theorem desires_of_rendered {d : ManagedObject} (hsound : p.templates.Sound)
    (hwell : p.templates.WellFormed) (hspec : p.subject.spec.WellFormed)
    (h : p.templates.render p.subject r p.image = .ok d) : p.Desires r d := by
  obtain ⟨t, ht, hd⟩ := Registry.render_ok h
  exact ⟨h, hwell.render hspec h, hd ▸ (hsound r t ht).desired ..⟩

/-- What is written and told after a look leaves the cluster as that says. -/
theorem written_of_put {verb : Verb} {action : String} {o : ManagedObject} {c₁ c₂ : Cluster}
    (hlook : c₁ = c.record (.object .get (p.keyOf r))) (hkey : o.key = p.keyOf r)
    (hput : c₂ = ((c₁.record (.object verb (p.keyOf r))).bump).put o)
    (htold : (notify p.subject action (p.keyOf r) : StoreM Cluster Unit) c₂ = .ok () c') :
    c.Written c' verb (p.keyOf r) o p.subject := by
  obtain ⟨e, htold'⟩ := notify_run p.subject action (p.keyOf r) c₂
  cases htold'.symm.trans htold
  rw [hput, hlook]
  exact written_announce hkey p.subject e

/-- What was created was missing. -/
theorem apply_created (hsound : p.templates.Sound) (h : p.Succeeds r c .created c') :
    Table.get? c.objects (p.keyOf r) = none ∧
      ∃ new, c.Written c' .create (p.keyOf r) new p.subject := by
  cases h with
  | created rendered looked owned wrote told =>
    obtain ⟨t, ht, rfl⟩ := Registry.render_ok rendered
    obtain ⟨hfound, hlook⟩ := get_ok looked
    obtain ⟨uid, hnew, hput⟩ := create_answer wrote
    have hkey := (((hsound r t ht).desired p.subject p.image).own owned).key_eq
    rw [hkey] at hput
    exact ⟨hfound.symm, _, written_of_put hlook (hnew ▸ hkey) hput told⟩

/-- What was updated is the live object with the desired one laid over it, under its owner. -/
theorem apply_updated (hsound : p.templates.Sound) (hc : c.Keyed)
    (h : p.Succeeds r c .updated c') :
    ∃ d live o version, p.templates.render p.subject r p.image = .ok d ∧
      Table.get? c.objects (p.keyOf r) = some live ∧ live.converged d p.subject = .ok o ∧
      c.Written c' .update (p.keyOf r) (o.marked version live.metadata.uid) p.subject := by
  cases h with
  | updated rendered looked merged differs wrote told =>
    obtain ⟨t, ht, rfl⟩ := Registry.render_ok rendered
    obtain ⟨hfound, hlook⟩ := get_ok looked
    obtain ⟨old, hold, -, hnew, hput⟩ := update_answer wrote
    have hkey := (((hsound r t ht).desired p.subject p.image).converged
      ((hsound r t ht).desired_sorted ..) (hc.kind_of_get? hfound.symm) merged).key_eq
    rw [hkey, hlook] at hold
    obtain rfl := Option.some.inj (hfound.trans hold)
    rw [hkey, hnew] at hput
    exact ⟨_, _, _, _, rendered, hfound.symm, merged, written_of_put hlook hkey hput told⟩

/-- An application from end to end. Its answer says in which of three ways it has succeeded; in
every other case it fails. A failure leaves all objects as they were, and so does an application
that finds nothing to change, which does not even try to write. The other two write once, after a
look, and tell so once. An update leaves the live object everything that the desired document lacks,
except for the version, the owners and the files of a configuration, and the references to all
owners but the instance. -/
theorem apply_accounted (p : Pass) (htemplates : p.templates = Registry.own)
    (hspec : p.subject.spec.WellFormed) (r : Resource) (c : Cluster) (hc : c.Orderly) :
    let answer := (p.apply r : StoreM Cluster Applied).answer c
    let c' := (p.apply r : StoreM Cluster Applied).after c
    (∀ a, answer = .ok a ↔ p.Succeeds r c a c') ∧
      (∀ e, answer = .error e → c'.objects = c.objects ∧ c'.events = c.events) ∧
      (answer = .ok .unchanged → c'.objects = c.objects ∧ c'.events = c.events ∧
        c'.calls = c.calls ++ [.object .get (p.keyOf r)]) ∧
      (answer = .ok .created → Table.get? c.objects (p.keyOf r) = none ∧
        ∃ new, c.Written c' .create (p.keyOf r) new p.subject) ∧
      (answer = .ok .updated → ∃ d live new, p.templates.render p.subject r p.image = .ok d ∧
        Table.get? c.objects (p.keyOf r) = some live ∧
        c.Written c' .update (p.keyOf r) new p.subject ∧
        (∀ path, d.toJson.Lacks path → ¬ ManagedObject.Renewed r.kind path →
          new.toJson.at? path = live.toJson.at? path) ∧
        new.foreignOwners p.subject = live.foreignOwners p.subject) := by
  intro answer c'
  have hsound : p.templates.Sound := htemplates ▸ Registry.own_sound
  have hwell : p.templates.WellFormed := htemplates ▸ Registry.own_wellFormed
  have hsucceeds (a : Applied) (ha : answer = .ok a) : p.Succeeds r c a c' :=
    apply_succeeds (run_of_answer ha)
  refine ⟨fun a => ⟨hsucceeds a, fun h => answer_ok h.run⟩, fun e he => ?_, fun hunchanged => ?_,
    fun hcreated => apply_created hsound (hsucceeds _ hcreated), fun hupdated => ?_⟩
  · obtain ⟨calls, heq⟩ : c.Called c' := apply_failed_keeps called_record (run_of_failure he)
    rw [heq]
    exact ⟨rfl, rfl⟩
  · cases hsucceeds _ hunchanged with
    | unchanged rendered looked merged same =>
      rw [(get_ok looked).2]
      exact ⟨rfl, rfl, rfl⟩
  · obtain ⟨d, live, o, version, hrender, hfound, hmerged, hwritten⟩ :=
      apply_updated hsound hc.keyed (hsucceeds _ hupdated)
    have hd := desires_of_rendered hsound hwell hspec hrender
    obtain ⟨hlive, hkind⟩ := hc.found r p.subject live hfound
    have hsame := hd.stands.kind.trans hkind.symm
    refine ⟨d, live, _, hrender, hfound, hwritten, fun path hlacks hpath => ?_, ?_⟩
    · exact ManagedObject.at?_converged hlive hd.wish hsame hmerged hlacks
        (hd.stands.kind ▸ hpath) version
    · exact ManagedObject.foreignOwners_converged hlive hd.wish hsame hmerged version _

/-- Somebody has given a service an address. -/
theorem apply_accounted_of_service :
    let i : Instance := { Instance.bare ⟨"nfd", "nfd"⟩ with
      metadata := { name := some "nfd", ns := some "nfd", uid := some "uid-1" } }
    let p : Pass := .ofInstance {} Registry.own i
    let r : Resource := ⟨.service, "nfd-master"⟩
    let live : ManagedObject := ⟨.service, Kind.names .service,
      { name := some "nfd-master", ns := some "nfd" },
      [("spec", .obj [("clusterIP", .str "10.0.0.7")])]⟩
    let c : Cluster := { objects := [(p.keyOf r, live)] }
    ∃ new, c.Written ((p.apply r : StoreM Cluster Applied).after c) .update (p.keyOf r) new i ∧
      new.toJson.at? ["spec", "clusterIP"] = some (.str "10.0.0.7") := by
  intro i p r live c
  have horderly : c.Orderly :=
    .of_rows (List.forall_mem_singleton.2 rfl) (List.forall_mem_singleton.2 (by decide +kernel))
  have hanswer : (p.apply r : StoreM Cluster Applied).answer c = .ok .updated := by decide +kernel
  obtain ⟨d, found, new, hrender, hfound, hwritten, hkept, -⟩ :=
    (apply_accounted p rfl (.of_unset rfl) r c horderly).2.2.2.2 hanswer
  have hlacks : (Except.ok d : Except Error ManagedObject).toOption.all
      (fun d => d.toJson.Lacks ["spec", "clusterIP"]) = true := by
    rw [← hrender]
    decide +kernel
  have haddress : some found = some live := hfound.symm.trans (by decide +kernel)
  refine ⟨new, hwritten, (hkept _ (of_decide_eq_true hlacks) (by decide)).trans ?_⟩
  rw [Option.some.inj haddress]
  decide +kernel

/-- An update does not keep what a live object has below a place where the desired one has a
text. -/
theorem apply_replaces :
    let p : Pass := .ofInstance {} Registry.own (.bare ⟨"nfd", "nfd"⟩)
    let r : Resource := ⟨.securityContextConstraints, "nfd-worker"⟩
    let path := ["runAsUser", "type", "a"]
    ∃ live d new, let c : Cluster := { objects := [(p.keyOf r, live)] }
      c.Orderly ∧ p.templates.render p.subject r p.image = .ok d ∧
      (p.apply r : StoreM Cluster Applied).answer c = .ok .updated ∧
      Table.get? ((p.apply r : StoreM Cluster Applied).after c).objects (p.keyOf r) = some new ∧
      live.toJson.at? path = some (.int 1) ∧ d.toJson.at? path = none ∧
      ¬ ManagedObject.Renewed r.kind path ∧ new.toJson.at? path = none := by
  intro p r path
  let live : ManagedObject := (ManagedObject.decode? .securityContextConstraints (.obj [
    ("metadata", .obj [("name", .str "nfd-worker")]),
    ("runAsUser", .obj [("type", .obj [("a", .int 1)])])])).getD default
  let c : Cluster := { objects := [(p.keyOf r, live)] }
  let new := (Table.get? ((p.apply r : StoreM Cluster Applied).after c).objects
    (p.keyOf r)).getD default
  have hwell : live.WellFormed := by decide +kernel
  have horderly : c.Orderly :=
    .of_rows (List.forall_mem_singleton.2 (by decide +kernel)) (List.forall_mem_singleton.2 hwell)
  exact ⟨live, (p.templates.render p.subject r p.image).toOption.getD default, new, horderly,
    by decide +kernel, by decide +kernel, by decide +kernel, by decide +kernel, by decide +kernel,
    by decide, by decide +kernel⟩

end Pass

end NodeFeatureOperator
