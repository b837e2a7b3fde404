import NodeFeatureOperator.Proofs.Deletion

/-!
# Deletions are bounded

To delete an object is an endless loop, which tries and waits in turn, and which a timer cuts off.
The loop is told here as a relation (`Retries`) that knows no number of tries: how many there are is
found out by running it against the clock. It runs in one way only (`Retries.unique`), and it comes
to what `deleteWithRetry` computes with the number of tries that it has worked out in advance
(`deleteWithRetry_settles`). What the loop leaves, and what it costs, is told by
`deleteWithRetry_bounded`.
-/

namespace NodeFeatureOperator

open Cluster StoreM

/-- One round of the loop: a try to delete an object, and a look whether it is still there. -/
def tryDelete {σ : Type} [Store σ] (key : Key) : StoreM σ Bool := do
  deleteOnce key
  keyExists key

/-- The loop of rounds on a cluster until a deadline, with the time of every round and the calls for
a deletion that were made in it, and with what it comes to. A round takes place even if its time is
the deadline. -/
inductive Retries (policy : RetryPolicy) (key : Key) (deadline : Nat) :
    Cluster → List (Nat × List Key) → EStateM.Result Error Cluster Unit → Prop
  /-- The object is gone. -/
  | ends {c c' : Cluster} {keys : List Key} (round : tryDelete key c = .ok false c')
      (deletes : c.Deletes keys c') :
      Retries policy key deadline c [(c.elapsed.nanos, keys)] (.ok () c')
  /-- A call is refused. -/
  | fails {c c' : Cluster} {keys : List Key} {e : Error} (round : tryDelete key c = .error e c')
      (deletes : c.Deletes keys c') :
      Retries policy key deadline c [(c.elapsed.nanos, keys)] (.error e c')
  /-- The object is still there, and there is time for another round. -/
  | again {c c' : Cluster} {keys : List Key} {tries : List (Nat × List Key)}
      {r : EStateM.Result Error Cluster Unit} (round : tryDelete key c = .ok true c')
      (deletes : c.Deletes keys c')
      (intime : c'.elapsed.nanos + policy.interval.nanos ≤ deadline)
      (rest : Retries policy key deadline
        { c' with elapsed := ⟨c'.elapsed.nanos + policy.interval.nanos⟩ } tries r) :
      Retries policy key deadline c ((c.elapsed.nanos, keys) :: tries) r
  /-- The object is still there, and the timer goes off before the next round. -/
  | late {c c' : Cluster} {keys : List Key} (round : tryDelete key c = .ok true c')
      (deletes : c.Deletes keys c')
      (late : deadline < c'.elapsed.nanos + policy.interval.nanos) :
      Retries policy key deadline c [(c.elapsed.nanos, keys)]
        (.error (.deleteTimeout key policy.timeout) { c' with elapsed := ⟨deadline⟩ })

variable {policy : RetryPolicy} {key : Key} {keys keys' : List Key} {deadline n : Nat}
  {c c' : Cluster} {e : Error} {tries tries' : List (Nat × List Key)}
  {r r' : EStateM.Result Error Cluster Unit}

/-! ## One round -/

/-- A round over an object that clings finds it where it was, after one call for its deletion. -/
theorem tryDelete_of_clings (h : c.Clings key) :
    ∃ c', (tryDelete key : StoreM Cluster Bool) c = .ok true c' ∧ c.Deletes [key] c' ∧
      c'.elapsed = c.elapsed ∧ c'.Clings key := by
  have hclings : ((c.record (.object .get key)).record (.object .delete key)).Clings key :=
    h.congr rfl rfl rfl
  refine ⟨_, (bind_of_ok (deleteOnce_of_clings h)).trans (keyExists_of_clings hclings), ?_, rfl,
    h.congr rfl rfl rfl⟩
  exact deletes_of_calls [.object .get key, .object .delete key, .object .get key]
    (by simp [record])

/-- Any other round ends the loop: nothing is left of the object, or a call is refused. -/
theorem tryDelete_of_free (h : ¬ c.Clings key) :
    (∃ c', (tryDelete key : StoreM Cluster Bool) c = .ok false c' ∧
      c.Deletes ([key].filter fun k => (Table.get? c.objects k).isSome) c' ∧
      c'.elapsed = c.elapsed ∧ Table.get? c'.objects key = none) ∨
    ∃ e c' n, (tryDelete key : StoreM Cluster Bool) c = .error e c' ∧ e.Prompt ∧
      c'.objects = c.objects ∧ c.Deletes (List.replicate n key) c' := by
  rcases deleteOnce_of_free h with
    ⟨c₁, hdelete, hlook, hgone, hfailures, hdeletes, helapsed⟩ |
    ⟨e, c₁, n, hdelete, hprompt, hobjects, hdeletes, -⟩
  · have hexists := keyExists_run key c₁
    rw [injected?_congr hfailures, hlook, hgone] at hexists
    refine Or.inl ⟨_, (bind_of_ok hdelete).trans hexists, ?_, helapsed, hgone⟩
    rw [← List.append_nil (List.filter ..)]
    exact hdeletes.trans (deletes_of_calls [.object .get key] rfl)
  · exact Or.inr ⟨e, c₁, n, bind_of_error hdelete, hprompt, hobjects, hdeletes⟩

/-- All tries together fail as the first of them does, or because the time is up. -/
theorem deleteWithRetry_error
    (h : (deleteWithRetry policy key : StoreM Cluster Unit) c = .error e c') :
    e = .deleteTimeout key policy.timeout ∨
      (deleteOnce key : StoreM Cluster Unit) c = .error e c' := by
  unfold deleteWithRetry at h
  by_cases hclings : c.Clings key
  · obtain ⟨c₁, hrun, -⟩ := deleteTries_of_clings hclings policy policy.attempts
    cases hrun.symm.trans h
    exact Or.inl rfl
  · rcases deleteOnce_of_free hclings with
      ⟨c₁, hdelete, hlook, hgone, hfailures, -⟩ | ⟨e₁, c₁, n, hdelete, -⟩
    · have hexists := keyExists_run key c₁
      rw [injected?_congr hfailures, hlook, hgone] at hexists
      cases ((bind_of_ok hdelete).trans (bind_of_ok hexists)).symm.trans h
    · cases (bind_of_error hdelete).symm.trans h
      exact Or.inr hdelete

/-- A round that finds nothing calls for no deletion. -/
theorem tryDelete_of_absent (habsent : Table.get? c.objects key = none)
    (hlook : c.injected? .get key = none) :
    ∃ c', (tryDelete key : StoreM Cluster Bool) c = .ok false c' ∧ c.Deletes [] c' ∧
      c'.elapsed = c.elapsed := by
  let looked := c.record (.object .get key)
  have hdelete := deleteOnce_run key c
  simp only [hlook, Table.contains_eq_false_iff.2 habsent] at hdelete
  have hexists := keyExists_run key looked
  rw [show looked.injected? .get key = none from hlook,
    show Table.get? looked.objects key = none from habsent] at hexists
  exact ⟨_, (bind_of_ok hdelete).trans hexists,
    deletes_of_calls [.object .get key, .object .get key] (by simp [record, looked]), rfl⟩

/-- The tries that are counted go by rounds, too. -/
theorem deleteTries_succ (policy : RetryPolicy) (key : Key) (n : Nat) :
    (deleteTries policy key (n + 1) : StoreM Cluster Unit) =
      (tryDelete key >>= fun present =>
        if present then do
          if n ≠ 0 then Store.pause policy.interval
          deleteTries policy key n
        else pure ()) :=
  (bind_assoc (deleteOnce key) (fun _ => keyExists key) _).symm

/-! ## The loop -/

theorem Cluster.Deletes.unique (h : c.Deletes keys c') (h' : c.Deletes keys' c') : keys' = keys :=
  List.append_cancel_left (h'.symm.trans h)

namespace Retries

/-- The loop runs in one way only. -/
theorem unique (h : Retries policy key deadline c tries r)
    (h' : Retries policy key deadline c tries' r') : tries' = tries ∧ r' = r := by
  induction h generalizing tries' r' with
  | ends round deletes =>
    cases h' with
    | ends round' deletes' =>
      cases round.symm.trans round'
      exact ⟨by rw [deletes.unique deletes'], rfl⟩
    | fails round' | again round' | late round' => cases round.symm.trans round'
  | fails round deletes =>
    cases h' with
    | fails round' deletes' =>
      cases round.symm.trans round'
      exact ⟨by rw [deletes.unique deletes'], rfl⟩
    | ends round' | again round' | late round' => cases round.symm.trans round'
  | again round deletes intime _ ih =>
    cases h' with
    | again round' deletes' _ rest' =>
      cases round.symm.trans round'
      obtain ⟨rfl, rfl⟩ := ih rest'
      exact ⟨by rw [deletes.unique deletes'], rfl⟩
    | late round' _ late' =>
      cases round.symm.trans round'
      exact absurd intime (Nat.not_le.2 late')
    | ends round' | fails round' => cases round.symm.trans round'
  | late round deletes late =>
    cases h' with
    | late round' deletes' =>
      cases round.symm.trans round'
      exact ⟨by rw [deletes.unique deletes'], rfl⟩
    | again round' _ intime' =>
      cases round.symm.trans round'
      exact absurd intime' (Nat.not_le.2 late)
    | ends round' | fails round' => cases round.symm.trans round'

/-- An object that does not cling takes one round, however many tries there are. -/
theorem of_free (h : ¬ c.Clings key) (policy : RetryPolicy) (deadline n : Nat) :
    ∃ keys, Retries policy key deadline c [(c.elapsed.nanos, keys)]
      (deleteTries policy key (n + 1) c) := by
  rw [deleteTries_succ]
  rcases tryDelete_of_free h with
    ⟨c', hround, hdeletes, -⟩ | ⟨e, c', m, hround, -, -, hdeletes⟩
  · rw [bind_of_ok hround]
    exact ⟨_, .ends hround hdeletes⟩
  · rw [bind_of_error hround]
    exact ⟨_, .fails hround hdeletes⟩

/-- An object that clings is tried after every interval up to the deadline. -/
theorem of_clings (h : c.Clings key) (hinterval : 0 < policy.interval.nanos)
    (hdeadline :
      c.elapsed.nanos + (n * policy.interval.nanos + policy.remainder.nanos) = deadline) :
    Retries policy key deadline c
      ((List.range (n + 1)).map fun m => (c.elapsed.nanos + m * policy.interval.nanos, [key]))
      (deleteTries policy key (n + 1) c) := by
  -- Less than one interval is left after the last try.
  have hremainder : policy.remainder.nanos < policy.interval.nanos := Nat.mod_lt _ hinterval
  induction n generalizing c with
  | zero =>
    obtain ⟨c', hround, hdeletes, helapsed, -⟩ := tryDelete_of_clings h
    have hrun : (deleteTries policy key 1 : StoreM Cluster Unit) c =
        .error (.deleteTimeout key policy.timeout) { c' with elapsed := ⟨deadline⟩ } := by
      rw [deleteTries_succ, bind_of_ok hround, ← hdeadline, Nat.zero_mul, Nat.zero_add, ← helapsed]
      rfl
    rw [hrun, List.range_one, List.map_singleton, Nat.zero_mul, Nat.add_zero]
    exact .late hround hdeletes (by rw [helapsed]; omega)
  | succ n ih =>
    obtain ⟨c', hround, hdeletes, helapsed, hclings⟩ := tryDelete_of_clings h
    let waited : Cluster := { c' with elapsed := ⟨c'.elapsed.nanos + policy.interval.nanos⟩ }
    have hwaited : waited.elapsed.nanos = c.elapsed.nanos + policy.interval.nanos := by
      rw [← helapsed]
    have hrun : (deleteTries policy key (n + 1 + 1) : StoreM Cluster Unit) c =
        deleteTries policy key (n + 1) waited := by
      rw [deleteTries_succ, bind_of_ok hround]
      rfl
    rw [Nat.succ_mul] at hdeadline
    have hrest := ih (c := waited) (hclings.congr rfl rfl rfl) (by omega)
    -- The rounds that are left count from the end of the first wait.
    have htimes : (fun m => (waited.elapsed.nanos + m * policy.interval.nanos, [key])) =
        (fun m => (c.elapsed.nanos + m * policy.interval.nanos, [key])) ∘ Nat.succ := by
      funext m
      rw [hwaited, Function.comp_apply, Nat.succ_mul, Nat.add_right_comm, Nat.add_assoc]
    rw [htimes, ← List.map_map] at hrest
    rw [hrun, List.range_succ_eq_map, List.map_cons, Nat.zero_mul, Nat.add_zero]
    exact .again hround hdeletes (by rw [helapsed]; omega) hrest

end Retries

/-! ## What a deletion comes to -/

/-- How the tries to delete an object that began on `c` have ended tells what they have left, and
what it took to give up: a call for the deletion at the beginning and after every interval up to the
timeout. -/
def Cluster.Settled (policy : RetryPolicy) (key : Key) (c : Cluster)
    (tries : List (Nat × List Key)) : EStateM.Result Error Cluster Unit → Prop
  | .ok _ c' => Table.get? c'.objects key = none
  | .error (.deleteTimeout k timeout) c' =>
    k = key ∧ timeout = policy.timeout ∧ (Table.get? c'.objects key).isSome ∧
      tries = (List.range (policy.timeout.nanos / policy.interval.nanos + 1)).map
        (fun n => (c.elapsed.nanos + n * policy.interval.nanos, [key])) ∧
      c'.elapsed.nanos = c.elapsed.nanos + policy.timeout.nanos
  | .error _ c' => c'.objects = c.objects

theorem Cluster.settled_of_prompt (hprompt : e.Prompt) (hobjects : c'.objects = c.objects) :
    c.Settled policy key tries (.error e c') := by
  cases e with
  | deleteTimeout => exact hprompt.elim
  | _ => exact hobjects

/-- The counted tries are rounds of the loop, and they settle the matter. -/
theorem deleteWithRetry_settles (hinterval : 0 < policy.interval.nanos) (key : Key) (c : Cluster) :
    ∃ tries,
      Retries policy key (c.elapsed.nanos + policy.timeout.nanos) c tries
        (deleteWithRetry policy key c) ∧
      c.Settled policy key tries (deleteWithRetry policy key c) := by
  by_cases hclings : c.Clings key
  · have hdeadline : c.elapsed.nanos +
        (policy.timeout.nanos / policy.interval.nanos * policy.interval.nanos +
          policy.remainder.nanos) = c.elapsed.nanos + policy.timeout.nanos :=
      congrArg _ (Nat.div_add_mod' ..)
    refine ⟨_, Retries.of_clings hclings hinterval hdeadline, ?_⟩
    obtain ⟨c', hrun, hobjects, -, helapsed⟩ := deleteTries_of_clings hclings policy policy.attempts
    rw [show (deleteWithRetry policy key : StoreM Cluster Unit) c = _ from hrun]
    refine ⟨rfl, rfl, ?_, rfl, helapsed.trans hdeadline⟩
    rw [hobjects]
    exact hclings.stored
  · obtain ⟨keys, hloop⟩ := Retries.of_free hclings policy (c.elapsed.nanos + policy.timeout.nanos)
      (policy.timeout.nanos / policy.interval.nanos)
    refine ⟨_, hloop, ?_⟩
    unfold deleteWithRetry RetryPolicy.attempts
    rw [deleteTries_succ]
    rcases tryDelete_of_free hclings with
      ⟨c', hround, -, -, hgone⟩ | ⟨e, c', m, hround, hprompt, hobjects, -⟩
    · rw [bind_of_ok hround]
      exact hgone
    · rw [bind_of_error hround]
      exact settled_of_prompt hprompt hobjects

/-- Deleting an object with tries and waits comes to an end, and in one way only. It succeeds where
nothing is left under the key. The time is up where the object is still there, after a call for its
deletion at the beginning and after every interval up to the timeout. Any other error leaves the
objects as they were. What is missing costs neither a call for its deletion nor a wait, and what is
stored under other keys stays. -/
theorem deleteWithRetry_bounded (hinterval : 0 < policy.interval.nanos) (key : Key) (c : Cluster) :
    ∃ tries,
      (∀ tries' r, Retries policy key (c.elapsed.nanos + policy.timeout.nanos) c tries' r ↔
        tries' = tries ∧ r = deleteWithRetry policy key c) ∧
      c.Settled policy key tries (deleteWithRetry policy key c) ∧
      (Table.get? c.objects key = none → c.injected? .get key = none →
        tries = [(c.elapsed.nanos, [])] ∧ ∃ c',
          (deleteWithRetry policy key : StoreM Cluster Unit) c = .ok () c' ∧
          c'.elapsed = c.elapsed) ∧
      ∀ k, k ≠ key →
        Table.get? ((deleteWithRetry policy key : StoreM Cluster Unit).after c).objects k =
          Table.get? c.objects k := by
  obtain ⟨tries, hloop, hsettled⟩ := deleteWithRetry_settles hinterval key c
  refine ⟨tries, fun tries' r => ⟨hloop.unique, ?_⟩, hsettled, fun habsent hlook => ?_,
    (deleteTries_removed policy key policy.attempts c).objects⟩
  · rintro ⟨rfl, rfl⟩
    exact hloop
  · obtain ⟨c', hround, hdeletes, helapsed⟩ := tryDelete_of_absent habsent hlook
    obtain ⟨htries, hrun⟩ := hloop.unique (.ends hround hdeletes)
    exact ⟨htries.symm, c', hrun.symm, helapsed⟩

/-- A daemon set that survives its deletion is tried seven times in half a minute. The last round is
due when the time is up, and it still takes place. -/
theorem deleteWithRetry_bounded_sticky :
    let policy : RetryPolicy := ⟨.ofSeconds 5, .ofSeconds 30⟩
    let key := Key.namespaced .daemonSet "nfd" "nfd-worker"
    let c : Cluster := { objects := [(key, default)], sticky := [key] }
    0 < policy.interval.nanos ∧
      Retries policy key (Duration.ofSeconds 30).nanos c
        ((List.range 7).map fun n => (n * (Duration.ofSeconds 5).nanos, [key]))
        (.error (.deleteTimeout key (.ofSeconds 30))
          ((deleteWithRetry policy key : StoreM Cluster Unit).after c)) := by
  intro policy key c
  have hinterval : 0 < policy.interval.nanos := by decide
  obtain ⟨tries, hloop, hsettled, -⟩ := deleteWithRetry_bounded hinterval key c
  have hrun : (deleteWithRetry policy key : StoreM Cluster Unit) c =
      .error (.deleteTimeout key (.ofSeconds 30)) ((deleteWithRetry policy key).after c) :=
    run_of_failure (by decide +kernel)
  rw [hrun] at hsettled hloop
  obtain ⟨-, -, -, rfl, -⟩ := hsettled
  have hrounds : policy.timeout.nanos / policy.interval.nanos + 1 = 7 := by decide
  have hstart : c.elapsed.nanos = 0 := rfl
  rw [hrounds, hstart] at hloop
  refine ⟨hinterval, ?_⟩
  simpa only [Nat.zero_add] using (hloop _ _).2 ⟨rfl, rfl⟩

end NodeFeatureOperator
