import Mathlib.Data.List.Basic
import NodeFeatureOperator.Proofs.Applying
import NodeFeatureOperator.Proofs.Teardown

/-!
# Deleting in order

The tries to delete an object end in one of three ways (`Deletion`). They succeed, after one call or
none, since an object that survives one deletion survives them all (`Cluster.Clings`). They fail
with an error of the cluster. Or the time is up, and exactly the timeout has gone by. Of keys that
are deleted one after the other, those are called about under which something is stored, in order
(`deleteAll_deletes`).
-/

namespace NodeFeatureOperator

open Cluster StoreM

/-- The error is raised at once, without a wait for an object to go. -/
def Error.Prompt : Error → Prop
  | .deleteTimeout .. => False
  | _ => True

namespace Cluster

variable {c c' c'' : Cluster} {verb : Verb} {key : Key} {keys keys' : List Key} {e : Error}

/-- The calls for a deletion that were made in between are about these keys, in this order. -/
def Deletes (c : Cluster) (keys : List Key) (c' : Cluster) : Prop :=
  c'.objectCalls .delete = c.objectCalls .delete ++ keys

theorem Deletes.trans (h : c.Deletes keys c') (h' : c'.Deletes keys' c'') :
    c.Deletes (keys ++ keys') c'' := by
  unfold Deletes at *
  rw [h', h, List.append_assoc]

/-- Of the calls that were made in between, those for a deletion count. -/
theorem deletes_of_calls (calls : List Call) (h : c'.calls = c.calls ++ calls) :
    c.Deletes (({ calls } : Cluster).objectCalls .delete) c' := by
  unfold Deletes objectCalls
  rw [h, List.filterMap_append]

theorem injected?_prompt (h : c.injected? verb key = some e) : e.Prompt := by
  obtain ⟨code, -, rfl⟩ := Option.map_eq_some_iff.1 h
  trivial

/-- A deletion of the object is answered as if it were done, but leaves the object where it is. -/
structure Clings (c : Cluster) (key : Key) : Prop where
  stored : (Table.get? c.objects key).isSome
  looked : c.injected? .get key = none
  survives : match c.injected? .delete key with
    | some e => e.isNotFound = true
    | none => key ∈ c.sticky

theorem Clings.congr (h : c.Clings key) (hobjects : c'.objects = c.objects)
    (hfailures : c'.failures = c.failures) (hsticky : c'.sticky = c.sticky) : c'.Clings key := by
  refine ⟨hobjects ▸ h.stored, (injected?_congr hfailures ..).trans h.looked, ?_⟩
  rw [injected?_congr hfailures, hsticky]
  exact h.survives

end Cluster

variable {policy : RetryPolicy} {key : Key} {keys : List Key} {c c' : Cluster} {e : Error}

/-! ## One try -/

theorem keyExists_run (key : Key) (c : Cluster) :
    (keyExists key : StoreM Cluster Bool) c =
      match c.injected? .get key with
      | some e => .error e (c.record (.object .get key))
      | none => .ok (Table.get? c.objects key).isSome (c.record (.object .get key)) := by
  have hget := get_run key c
  cases hlook : c.injected? .get key with
  | some e =>
    rw [hlook] at hget
    exact bind_of_error hget
  | none =>
    rw [hlook] at hget
    exact bind_of_ok hget

/-- A try looks for the object, and only what it finds does it delete. -/
theorem deleteOnce_run (key : Key) (c : Cluster) :
    let looked := c.record (.object .get key)
    let tried := looked.record (.object .delete key)
    (deleteOnce key : StoreM Cluster Unit) c =
      match c.injected? .get key with
      | some e => .error e looked
      | none =>
        if Table.contains c.objects key then
          match c.injected? .delete key with
          | some e => if e.isNotFound then .ok () tried else .error e tried
          | none => .ok () { tried with
              objects := if key ∈ c.sticky then c.objects else Table.erase c.objects key }
        else .ok () looked := by
  intro looked tried
  have hexists := keyExists_run key c
  cases hlook : c.injected? .get key with
  | some e =>
    rw [hlook] at hexists
    exact bind_of_error hexists
  | none =>
    rw [hlook] at hexists
    refine (bind_of_ok hexists).trans ?_
    by_cases hstored : Table.contains c.objects key = true
    · have hdelete := delete_run key looked
      simp only [show Table.contains looked.objects key = true from hstored, if_true] at hdelete
      rw [show looked.injected? .delete key = c.injected? .delete key from rfl] at hdelete
      simp only [show (Table.get? c.objects key).isSome = true from hstored, hstored, if_true]
      cases hinjected : c.injected? .delete key with
      | some e =>
        rw [hinjected] at hdelete
        refine (bind_of_ok (attempt_of_error hdelete)).trans ?_
        unfold benign
        cases he : e.isNotFound <;> simp [he] <;> rfl
      | none =>
        rw [hinjected] at hdelete
        exact bind_of_ok (attempt_of_ok hdelete)
    · simp only [show ¬ (Table.get? c.objects key).isSome = true from hstored, hstored]
      rfl

/-- A try fails only as a call of it was made to fail. -/
theorem deleteOnce_error (h : (deleteOnce key : StoreM Cluster Unit) c = .error e c') :
    ∃ verb, c.injected? verb key = some e := by
  rw [deleteOnce_run] at h
  split at h
  · next looked =>
    cases h
    exact ⟨_, looked⟩
  · split at h
    · split at h
      · next injected =>
        split at h
        · cases h
        · cases h
          exact ⟨_, injected⟩
      · cases h
    · cases h

/-! ## All tries -/

theorem deleteOnce_of_clings (h : c.Clings key) :
    (deleteOnce key : StoreM Cluster Unit) c =
      .ok () ((c.record (.object .get key)).record (.object .delete key)) := by
  have hstored : Table.contains c.objects key = true := h.stored
  have hsurvives := h.survives
  rw [deleteOnce_run, h.looked]
  cases hinjected : c.injected? .delete key with
  | some e =>
    rw [hinjected] at hsurvives
    simp only [hstored, hsurvives, if_true]
  | none =>
    rw [hinjected] at hsurvives
    simp only [hstored, hsurvives, if_true]
    rfl

theorem keyExists_of_clings (h : c.Clings key) :
    (keyExists key : StoreM Cluster Bool) c = .ok true (c.record (.object .get key)) := by
  rw [keyExists_run, h.looked, h.stored]

/-- As long as the object clings, every try is made, and then the time is up. -/
theorem deleteTries_of_clings (h : c.Clings key) (policy : RetryPolicy) (n : Nat) :
    ∃ c', (deleteTries policy key n : StoreM Cluster Unit) c =
        .error (.deleteTimeout key policy.timeout) c' ∧
      c'.objects = c.objects ∧ c.Deletes (List.replicate n key) c' ∧
      c'.elapsed.nanos =
        c.elapsed.nanos + ((n - 1) * policy.interval.nanos + policy.remainder.nanos) := by
  induction n generalizing c with
  | zero =>
    refine ⟨_, rfl, rfl, deletes_of_calls [] (List.append_nil _).symm, ?_⟩
    rw [Nat.zero_sub, Nat.zero_mul, Nat.zero_add]
  | succ n ih =>
    have hdelete := deleteOnce_of_clings h
    have hclings : ((c.record (.object .get key)).record (.object .delete key)).Clings key :=
      h.congr rfl rfl rfl
    have hexists := keyExists_of_clings hclings
    -- The wait between two tries is left out after the last one.
    let wait : Nat := if n = 0 then 0 else policy.interval.nanos
    let waited : Cluster :=
      { ((c.record (.object .get key)).record (.object .delete key)).record (.object .get key) with
        elapsed := ⟨c.elapsed.nanos + wait⟩ }
    have hrun : (deleteTries policy key (n + 1) : StoreM Cluster Unit) c =
        deleteTries policy key n waited := by
      refine (bind_of_ok hdelete).trans ((bind_of_ok hexists).trans ?_)
      cases n <;> rfl
    obtain ⟨c', htries, hobjects, hdeletes, helapsed⟩ := ih (c := waited) (h.congr rfl rfl rfl)
    have hfirst : c.Deletes [key] waited :=
      deletes_of_calls [.object .get key, .object .delete key, .object .get key]
        (by simp [waited, record])
    refine ⟨c', hrun.trans htries, hobjects, hfirst.trans hdeletes, ?_⟩
    have hwaited : waited.elapsed.nanos = c.elapsed.nanos + wait := rfl
    rw [helapsed, hwaited]
    cases n with
    | zero => simp [wait]
    | succ n =>
      simp only [wait, Nat.add_sub_cancel, Nat.succ_ne_zero, if_false, Nat.add_mul]
      omega

/-- If the object does not cling, a try takes it away or is refused. -/
theorem deleteOnce_of_free (h : ¬ c.Clings key) :
    (∃ c', (deleteOnce key : StoreM Cluster Unit) c = .ok () c' ∧
      c.injected? .get key = none ∧ Table.get? c'.objects key = none ∧ c'.failures = c.failures ∧
      c.Deletes ([key].filter fun k => (Table.get? c.objects k).isSome) c' ∧
      c'.elapsed = c.elapsed) ∨
    ∃ e c' n, (deleteOnce key : StoreM Cluster Unit) c = .error e c' ∧ e.Prompt ∧
      c'.objects = c.objects ∧ c.Deletes (List.replicate n key) c' ∧ c'.elapsed = c.elapsed := by
  have hlooked : c.Deletes [] (c.record (.object .get key)) :=
    deletes_of_calls [.object .get key] rfl
  have htried : c.Deletes [key] ((c.record (.object .get key)).record (.object .delete key)) :=
    deletes_of_calls [.object .get key, .object .delete key] (by simp [record])
  have hrun := deleteOnce_run key c
  rw [List.filter_singleton]
  cases hlook : c.injected? .get key with
  | some e =>
    rw [hlook] at hrun
    exact Or.inr ⟨e, _, 0, hrun, injected?_prompt hlook, rfl, hlooked, rfl⟩
  | none =>
    rw [hlook] at hrun
    cases hfound : Table.get? c.objects key with
    | none =>
      simp only [Table.contains_eq_false_iff.2 hfound] at hrun
      exact Or.inl ⟨_, hrun, rfl, hfound, rfl, hlooked, rfl⟩
    | some o =>
      have hstored : (Table.get? c.objects key).isSome = true := by rw [hfound]; rfl
      simp only [show Table.contains c.objects key = true from hstored, if_true] at hrun
      cases hinjected : c.injected? .delete key with
      | some e =>
        have he : ¬ e.isNotFound = true := fun he => h ⟨hstored, hlook, by rwa [hinjected]⟩
        simp only [hinjected, he] at hrun
        exact Or.inr ⟨e, _, 1, hrun, injected?_prompt hinjected, rfl, htried, rfl⟩
      | none =>
        have hfree : key ∉ c.sticky := fun hsticky => h ⟨hstored, hlook, by rwa [hinjected]⟩
        simp only [hinjected, hfree, if_false] at hrun
        exact Or.inl ⟨_, hrun, rfl, (Table.get?_erase ..).trans (if_pos rfl), rfl, htried, rfl⟩

/-- The ways in which the tries to delete an object end, with what they leave. -/
inductive Deletion (policy : RetryPolicy) (key : Key) (c : Cluster) :
    EStateM.Result Error Cluster Unit → Prop
  /-- If there was an object, it is gone after one call. -/
  | done {c' : Cluster} (looked : c.injected? .get key = none)
      (deletes : c.Deletes ([key].filter fun k => (Table.get? c.objects k).isSome) c')
      (elapsed : c'.elapsed = c.elapsed) : Deletion policy key c (.ok () c')
  /-- The cluster has refused a call. -/
  | failed {e : Error} {c' : Cluster} {n : Nat} (prompt : e.Prompt)
      (objects : c'.objects = c.objects) (deletes : c.Deletes (List.replicate n key) c')
      (elapsed : c'.elapsed = c.elapsed) : Deletion policy key c (.error e c')
  /-- The object is still there when the time is up. -/
  | expired {c' : Cluster} (objects : c'.objects = c.objects)
      (deletes : c.Deletes (List.replicate policy.attempts key) c')
      (elapsed : c'.elapsed.nanos = c.elapsed.nanos + policy.timeout.nanos) :
      Deletion policy key c (.error (.deleteTimeout key policy.timeout) c')

theorem deleteWithRetry_ends (policy : RetryPolicy) (key : Key) (c : Cluster) :
    Deletion policy key c (deleteWithRetry policy key c) := by
  unfold deleteWithRetry
  by_cases hclings : c.Clings key
  · obtain ⟨c', hrun, hobjects, hdeletes, helapsed⟩ :=
      deleteTries_of_clings hclings policy policy.attempts
    -- The waits between the tries and what is left of the timeout add up to the timeout.
    have htimeout : (policy.attempts - 1) * policy.interval.nanos + policy.remainder.nanos
        = policy.timeout.nanos := Nat.div_add_mod' ..
    rw [htimeout] at helapsed
    rw [hrun]
    exact .expired hobjects hdeletes helapsed
  · rcases deleteOnce_of_free hclings with
      ⟨c₁, hdelete, hlook, hgone, hfailures, hdeletes, helapsed⟩ |
      ⟨e, c₁, n, hdelete, hprompt, hobjects, hdeletes, helapsed⟩
    · have hexists := keyExists_run key c₁
      rw [injected?_congr hfailures, hlook, hgone] at hexists
      have hrun : (deleteTries policy key policy.attempts : StoreM Cluster Unit) c =
          .ok () (c₁.record (.object .get key)) :=
        (bind_of_ok hdelete).trans (bind_of_ok hexists)
      rw [hrun]
      refine .done hlook ?_ helapsed
      rw [← List.append_nil (List.filter ..)]
      exact hdeletes.trans (deletes_of_calls [.object .get key] rfl)
    · have hrun : (deleteTries policy key policy.attempts : StoreM Cluster Unit) c = .error e c₁ :=
        bind_of_error hdelete
      rw [hrun]
      exact .failed hprompt hobjects hdeletes helapsed

/-! ## One key after the other -/

/-- Deletions that succeed have called for the deletion of what was stored, in order. -/
theorem deleteAll_deletes (hnodup : keys.Nodup)
    (h : (deleteAll policy keys : StoreM Cluster Unit) c = .ok () c') :
    c.Deletes (keys.filter fun k => (Table.get? c.objects k).isSome) c' ∧
      (∀ k ∈ keys, c.injected? .get k = none) ∧ c'.elapsed = c.elapsed := by
  induction keys generalizing c with
  | nil =>
    cases h
    exact ⟨deletes_of_calls [] (List.append_nil _).symm, by simp, rfl⟩
  | cons key keys ih =>
    obtain ⟨hfresh, hnodup⟩ := List.nodup_cons.1 hnodup
    obtain ⟨_, c₁, hfirst, hrest⟩ := bind_ok.1 h
    have hremoved := (deleteTries_removed policy key _).of_ok hfirst
    have hends := deleteWithRetry_ends policy key c
    rw [hfirst] at hends
    cases hends with
    | done looked deletes elapsed =>
      obtain ⟨hdeletes, hlooks, helapsed⟩ := ih hnodup hrest
      -- The first deletion leaves the keys behind it alone.
      have hsame : (keys.filter fun k => (Table.get? c₁.objects k).isSome) =
          keys.filter fun k => (Table.get? c.objects k).isSome := by
        refine List.filter_congr fun k hk => ?_
        rw [hremoved.objects k fun heq => hfresh (heq ▸ hk)]
      rw [hsame] at hdeletes
      refine ⟨?_, fun k hk => ?_, helapsed.trans elapsed⟩
      · rw [← List.singleton_append, List.filter_append]
        exact deletes.trans hdeletes
      · rcases List.mem_cons.1 hk with rfl | hk
        · exact looked
        · exact (injected?_congr hremoved.failures ..).symm.trans (hlooks k hk)

/-- What has stopped a deletion has left the objects as they were. -/
theorem deleteWithRetry_failed
    (h : (deleteWithRetry policy key : StoreM Cluster Unit) c = .error e c') :
    c'.objects = c.objects ∧ ∃ n, c.Deletes (List.replicate n key) c' := by
  have hends := deleteWithRetry_ends policy key c
  rw [h] at hends
  cases hends with
  | failed prompt objects deletes elapsed => exact ⟨objects, _, deletes⟩
  | expired objects deletes elapsed => exact ⟨objects, _, deletes⟩

/-- Deletions that fail have emptied the keys in front of the one where they failed, and that is
all they have done to the objects. -/
theorem deleteAll_error (h : (deleteAll policy keys : StoreM Cluster Unit) c = .error e c') :
    ∃ before k after c₁, keys = before ++ k :: after ∧
      (deleteAll policy before : StoreM Cluster Unit) c = .ok () c₁ ∧
      (deleteWithRetry policy k : StoreM Cluster Unit) c₁ = .error e c' ∧
      (∀ k ∈ before, Table.get? c'.objects k = none) ∧
      ∀ k, k ∉ before → Table.get? c'.objects k = Table.get? c.objects k := by
  rw [deleteAll_eq] at h
  obtain ⟨before, k, after, c₁, hkeys, hbefore, hraised⟩ := each_error h
  rw [← deleteAll_eq] at hbefore
  have hobjects := (deleteWithRetry_failed hraised).1
  refine ⟨before, k, after, c₁, hkeys, hbefore, hraised, ?_, ?_⟩
  · rw [hobjects]
    exact deleteAll_ok hbefore
  · rw [hobjects]
    exact ((deleteAll_removed _ _).of_ok hbefore).objects

/-- Where nothing is stored, nothing remains. -/
theorem remaining_of_absent (hlook : ∀ k ∈ keys, c.injected? .get k = none)
    (habsent : ∀ k ∈ keys, Table.get? c.objects k = none) :
    ∃ c', (remaining keys : StoreM Cluster (List Key)) c = .ok [] c' ∧ c.Called c' ∧
      c.Deletes [] c' := by
  induction keys generalizing c with
  | nil => exact ⟨c, rfl, refl_of _ c, deletes_of_calls [] (List.append_nil _).symm⟩
  | cons key keys ih =>
    obtain ⟨hkey, hlook⟩ := List.forall_mem_cons.1 hlook
    obtain ⟨hgone, habsent⟩ := List.forall_mem_cons.1 habsent
    have hexists := keyExists_run key c
    rw [hkey, hgone] at hexists
    obtain ⟨c', hrest, hcalled, hdeletes⟩ := ih (c := c.record (.object .get key)) hlook habsent
    refine ⟨c', (bind_of_ok hexists).trans (bind_of_ok hrest),
      trans_of _ (called_record ..) hcalled, ?_⟩
    exact (deletes_of_calls [.object .get key] rfl).trans hdeletes

end NodeFeatureOperator
