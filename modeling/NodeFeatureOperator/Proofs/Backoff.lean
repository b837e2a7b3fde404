import Mathlib.Data.List.Induction
import Mathlib.Data.List.Infix
import NodeFeatureOperator.Backoff
import NodeFeatureOperator.Proofs.Table

/-!
# Waits after failures

However the failures of many instances follow each other, the wait after a failure goes by the
number of failures of its own instance since they were last forgotten (`Backoff.wait_of_history`):
it doubles with each of them up to the limits, never shrinks in between, and what happens to other
instances makes no difference. This needs that the failures of the instance are not forgotten for
their age (`Backoff.Lively`).
-/

namespace NodeFeatureOperator.Backoff

/-- What can happen next. -/
inductive Turn where
  /-- A pass over an instance has failed, and the operator looks how long to wait. -/
  | failure (id : String) (e : Error)
  /-- The failures of an instance are forgotten. -/
  | reset (id : String)
  /-- Time passes. -/
  | wait (d : Duration)
deriving DecidableEq

namespace Turn

/-- What is remembered after a turn. -/
def take (s : Settings) (b : Backoff) : Turn → Backoff
  | failure id e => (b.retry s id e).2
  | reset id => b.reset id
  | wait d => b.wait d

/-- Whether a turn is a failure of an instance, conflicts apart. -/
def isFailureOf (id : String) : Turn → Bool
  | failure id' e => id' = id && !e.isConflict
  | _ => false

/-- Whether a turn has nothing to do with instances other than one. -/
def concerns (id : String) : Turn → Bool
  | failure id' _ => id' = id
  | reset id' => id' = id
  | wait _ => true

end Turn

/-- What is remembered after a history of turns. -/
def after (s : Settings) (turns : List Turn) : Backoff := turns.foldl (Turn.take s) {}

/-- The number of failures of an instance since they were last forgotten, or ever. -/
def failuresOf (id : String) (turns : List Turn) : Nat :=
  (turns.reverse.takeWhile (· ≠ .reset id)).countP (Turn.isFailureOf id)

/-- The failures of an instance, if there are any, are not so old as to be forgotten. -/
def Fresh (s : Settings) (b : Backoff) (id : String) : Prop :=
  ∀ f, Table.get? b.failures id = some f → b.idle f < lifetime s

instance (s : Settings) (b : Backoff) (id : String) : Decidable (b.Fresh s id) :=
  decidable_of_iff ((Table.get? b.failures id).all fun f => b.idle f < lifetime s) <| by
    simp [Fresh, Option.all_eq_true]

/-- At no time of the history are the failures of the instance so old as to be forgotten. Where the
longest wait is none, none are remembered anyway, and they make no difference. -/
def Lively (s : Settings) (id : String) (turns : List Turn) : Prop :=
  s.maxErrorRequeue = .zero ∨ ∀ past, past <+: turns → (after s past).Fresh s id

variable {s : Settings} {b b' : Backoff} {id id' : String} {e e' : Error} {t : Turn}
  {turns past rest : List Turn}

/-! ## Single turns -/

theorem retry_of_conflict (h : e.isConflict = true) : b.retry s id e = (.ofSeconds 1, b) := if_pos h

theorem retry_of_failure (h : e.isConflict = false) :
    b.retry s id e = (delay s ((b.prune s).count id), (b.prune s).add id) := by
  unfold retry
  simp only [h, Bool.false_eq_true, if_false]

theorem get?_prune (h : b.Fresh s id) :
    Table.get? (b.prune s).failures id = Table.get? b.failures id := by
  cases hf : Table.get? b.failures id with
  | none => exact Table.get?_filter_eq_none hf
  | some f => exact Table.get?_filter_of_pos hf (decide_eq_true (h f hf))

theorem count_congr (h : Table.get? b'.failures id = Table.get? b.failures id) :
    b'.count id = b.count id := by
  unfold count
  rw [h]

theorem Fresh.congr (h : b.Fresh s id) (hnow : b'.now = b.now)
    (hget : Table.get? b'.failures id = Table.get? b.failures id) : b'.Fresh s id := by
  intro f hf
  unfold idle
  rw [hnow]
  exact h f (hget.symm.trans hf)

/-- What a turn does to the failures of an instance. -/
theorem get?_take (h : b.Fresh s id) (t : Turn) :
    Table.get? (t.take s b).failures id =
      if t = .reset id then none
      else if t.isFailureOf id then some ⟨min (b.count id + 1) limit, b.now⟩
      else Table.get? b.failures id := by
  cases t with
  | wait d => rfl
  | reset id' =>
    refine (Table.get?_erase ..).trans ?_
    simp [Turn.isFailureOf]
  | failure id' e =>
    cases he : e.isConflict with
    | true =>
      change Table.get? (b.retry s id' e).2.failures id = _
      rw [retry_of_conflict he]
      simp [Turn.isFailureOf, he]
    | false =>
      change Table.get? (b.retry s id' e).2.failures id = _
      rw [retry_of_failure he]
      refine (Table.get?_insert ..).trans ?_
      by_cases hid : id' = id
      · subst hid
        rw [if_pos rfl, count_congr (get?_prune h)]
        simp [Turn.isFailureOf, he, prune]
      · simp [Turn.isFailureOf, hid, get?_prune h]

theorem count_take (h : b.Fresh s id) (t : Turn) :
    (t.take s b).count id =
      if t = .reset id then 0
      else if t.isFailureOf id then min (b.count id + 1) limit
      else b.count id := by
  unfold count
  rw [get?_take h t]
  split
  · rfl
  · split
    · rfl
    · rfl

/-- Only the passing of time moves the clock. -/
theorem now_take (s : Settings) (b : Backoff) (t : Turn) :
    (t.take s b).now = match t with
      | .wait d => ⟨b.now.nanos + d.nanos⟩
      | _ => b.now := by
  cases t with
  | failure id e =>
    change (b.retry s id e).2.now = b.now
    unfold retry
    split
    · rfl
    · rfl
  | _ => rfl

/-! ## Waits -/

/-- Where the longest wait is none, all waits are. -/
theorem delay_of_zero (h : s.maxErrorRequeue = .zero) (n : Nat) : delay s n = .zero := by
  unfold delay Duration.shorter
  rw [h]
  exact congrArg Duration.mk (Nat.min_zero _)

/-- More failures do not make the wait shorter. -/
theorem delay_mono {m n : Nat} (h : m ≤ n) : delay s m ≤ delay s n := by
  have hpow : Nat.pow 2 m ≤ Nat.pow 2 n := Nat.pow_le_pow_right Nat.two_pos h
  have hfactor : min (Nat.pow 2 m) limit ≤ min (Nat.pow 2 n) limit :=
    Nat.le_min.2 ⟨Nat.le_trans (Nat.min_le_left _ _) hpow, Nat.min_le_right _ _⟩
  have hscaled := Nat.mul_le_mul_left s.errorRequeue.nanos hfactor
  have hcut {a b : Nat} (hab : a ≤ b) (bound : Nat) : min a bound ≤ min b bound := by omega
  exact hcut (hcut hscaled _) _

/-- Doubling stops at the bound whether or not the number of doublings does. -/
theorem min_pow_min (n bound : Nat) :
    min (Nat.pow 2 (min n bound)) bound = min (Nat.pow 2 n) bound := by
  rcases Nat.le_total n bound with h | h
  · rw [Nat.min_eq_left h]
  · have hbound : bound ≤ Nat.pow 2 bound := Nat.le_of_lt Nat.lt_two_pow_self
    have hn : bound ≤ Nat.pow 2 n := Nat.le_trans hbound (Nat.pow_le_pow_right Nat.two_pos h)
    rw [Nat.min_eq_right h, Nat.min_eq_right hbound, Nat.min_eq_right hn]

/-- Failures that are not counted any more make no difference to the wait. -/
theorem delay_min (s : Settings) (n : Nat) : delay s (min n limit) = delay s n := by
  unfold delay
  rw [min_pow_min]

theorem retry_fst (h : e.isConflict = false) (hfresh : b.Fresh s id) :
    (b.retry s id e).1 = delay s (b.count id) := by
  rw [retry_of_failure h, count_congr (get?_prune hfresh)]

/-! ## Histories -/

theorem after_concat (s : Settings) (turns : List Turn) (t : Turn) :
    after s (turns ++ [t]) = t.take s (after s turns) :=
  List.foldl_append

theorem failuresOf_concat (id : String) (turns : List Turn) (t : Turn) :
    failuresOf id (turns ++ [t]) =
      if t = .reset id then 0
      else failuresOf id turns + if t.isFailureOf id then 1 else 0 := by
  unfold failuresOf
  rw [List.reverse_append, List.reverse_singleton, List.singleton_append, List.takeWhile_cons]
  by_cases h : t = .reset id
  · simp [h]
  · simp [h, List.countP_cons]

/-- Failures add to those before them until they are forgotten. -/
theorem failuresOf_append (h : .reset id ∉ rest) :
    failuresOf id past ≤ failuresOf id (past ++ rest) := by
  induction rest using List.reverseRecOn with
  | nil => exact Nat.le_of_eq (congrArg _ (List.append_nil past).symm)
  | append_singleton rest t ih =>
    rw [List.mem_append, not_or, List.mem_singleton] at h
    rw [← List.append_assoc, failuresOf_concat, if_neg (Ne.symm h.2)]
    exact Nat.le_add_right_of_le (ih h.1)

namespace Lively

theorem of_prefix (h : Lively s id turns) (hpast : past <+: turns) : Lively s id past :=
  h.imp_right fun hlively past' hpast' => hlively past' (hpast'.trans hpast)

theorem fresh (h : Lively s id turns) (hmax : s.maxErrorRequeue ≠ .zero) :
    (after s turns).Fresh s id :=
  h.resolve_left hmax turns (List.prefix_refl turns)

/-- The failures of a lively instance are counted up to the limit. -/
theorem count_after (h : Lively s id turns) (hmax : s.maxErrorRequeue ≠ .zero) :
    (after s turns).count id = min (failuresOf id turns) limit := by
  induction turns using List.reverseRecOn with
  | nil => rfl
  | append_singleton turns t ih =>
    have hpast := h.of_prefix (List.prefix_append turns [t])
    rw [after_concat, count_take (hpast.fresh hmax), ih hpast, failuresOf_concat]
    split
    · rfl
    · split
      · omega
      · rfl

/-- What an instance is remembered for does not depend on other instances. -/
theorem after_concerns (h : Lively s id turns) (hmax : s.maxErrorRequeue ≠ .zero) :
    let own := after s (turns.filter (·.concerns id))
    Table.get? own.failures id = Table.get? (after s turns).failures id ∧
      own.now = (after s turns).now := by
  induction turns using List.reverseRecOn with
  | nil => exact ⟨rfl, rfl⟩
  | append_singleton turns t ih =>
    have hpast := h.of_prefix (List.prefix_append turns [t])
    obtain ⟨hget, hnow⟩ := ih hpast
    have hfresh := hpast.fresh hmax
    intro own
    have hown : own = after s (turns.filter (·.concerns id) ++ [t].filter (·.concerns id)) :=
      congrArg (after s) (List.filter_append ..)
    rw [hown, after_concat, get?_take hfresh, now_take]
    cases hconcerns : t.concerns id with
    | true =>
      rw [List.filter_cons_of_pos hconcerns, List.filter_nil, after_concat,
        get?_take (hfresh.congr hnow hget), now_take, hget, hnow, count_congr hget]
      exact ⟨rfl, rfl⟩
    | false =>
      -- The turn is that of another instance: it takes no time and touches another entry.
      rw [List.filter_cons_of_neg (by simp [hconcerns]), List.filter_nil, List.append_nil, hget,
        hnow]
      cases t with
      | wait d => cases hconcerns
      | reset id' =>
        have hne : id' ≠ id := of_decide_eq_false hconcerns
        simp [Turn.isFailureOf, hne]
      | failure id' e =>
        have hne : id' ≠ id := of_decide_eq_false hconcerns
        simp [Turn.isFailureOf, hne]

/-- The wait after a failure goes by the number of failures. -/
theorem retry_eq (h : Lively s id turns) (he : e.isConflict = false) :
    ((after s turns).retry s id e).1 = delay s (failuresOf id turns) := by
  by_cases hmax : s.maxErrorRequeue = .zero
  · rw [retry_of_failure he, delay_of_zero hmax, delay_of_zero hmax]
  · rw [retry_fst he (h.fresh hmax), h.count_after hmax, delay_min]

end Lively

/-- The wait after an error that follows any history of failures, of whatever instances. After a
conflict it is a second, and nothing is remembered of it. Otherwise it is the first wait, doubled
for every failure of the instance since they were last forgotten, up to the limits of numbers and
spans and up to the longest wait. It is the same in the history without the other instances, and it
is not shorter than the wait after an earlier failure that has not been forgotten since. -/
theorem wait_of_history (s : Settings) (turns : List Turn) (id : String) (e : Error)
    (h : Lively s id turns) :
    let b := after s turns
    let wait := (b.retry s id e).1
    (e.isConflict = true → b.retry s id e = (.ofSeconds 1, b)) ∧
    (e.isConflict = false →
      wait.nanos =
        min (min (s.errorRequeue.nanos * min (Nat.pow 2 (failuresOf id turns)) 4294967295)
          Duration.longest.nanos) s.maxErrorRequeue.nanos ∧
      wait ≤ s.maxErrorRequeue ∧
      wait = ((after s (turns.filter (·.concerns id))).retry s id e).1 ∧
      ∀ past e' rest, turns = past ++ .failure id e' :: rest → e'.isConflict = false →
        .reset id ∉ rest → ((after s past).retry s id e').1 ≤ wait) := by
  intro b wait
  refine ⟨retry_of_conflict, fun he => ?_⟩
  have hwait : wait = delay s (failuresOf id turns) := h.retry_eq he
  refine ⟨?_, ?_, ?_, ?_⟩
  · rw [hwait]
    rfl
  · rw [hwait]
    exact Nat.min_le_right _ _
  · by_cases hmax : s.maxErrorRequeue = .zero
    · rw [hwait, retry_of_failure he, delay_of_zero hmax, delay_of_zero hmax]
    · obtain ⟨hget, hnow⟩ := h.after_concerns hmax
      have hfresh := h.fresh hmax
      rw [retry_fst he (hfresh.congr hnow hget), count_congr hget]
      exact retry_fst he hfresh
  · rintro past e' rest rfl he' hrest
    rw [hwait, (h.of_prefix (List.prefix_append _ _)).retry_eq he']
    refine delay_mono (failuresOf_append ?_)
    simpa using hrest

/-- Another instance fails in between, and there is a conflict, but only the failures count. -/
theorem wait_of_history_of_two :
    let e : Error := .configuration "boom"
    let conflict : Error := .api (.refused ⟨"Failure", "stale", "Conflict", 409⟩)
    let turns : List Turn := [.failure "a/nfd" e, .wait (.ofSeconds 5), .failure "b/nfd" e,
      .failure "a/nfd" conflict, .wait (.ofSeconds 500), .failure "a/nfd" e, .reset "b/nfd"]
    Lively {} "a/nfd" turns ∧ ((after {} turns).retry {} "a/nfd" e).1 = .ofSeconds 20 := by
  intro e conflict turns
  have hlively : Lively {} "a/nfd" turns := by
    refine Or.inr fun past hpast => ?_
    have hall : ∀ past ∈ turns.inits, (after {} past).Fresh {} "a/nfd" := by decide +kernel
    exact hall past ((List.mem_inits _ _).2 hpast)
  have hwait := ((wait_of_history {} turns "a/nfd" e hlively).2 (by decide)).1
  refine ⟨hlively, ?_⟩
  exact congrArg Duration.mk (hwait.trans (by decide +kernel))

end NodeFeatureOperator.Backoff
