import NodeFeatureOperator.Proofs.Operator

/-!
# Runs

A run is a list of steps, each of them a change of the cluster from outside or a pass of the
operator (`Step`, `run`). A property of single steps is told of a run by `Each`, which looks at
every step in the state where it is taken, and a property of states by `Always`, which looks at
every state from the first to the last. `tally` counts steps.
-/

namespace NodeFeatureOperator

open Cluster StoreM

/-- What can happen next. -/
inductive Step where
  /-- Somebody puts an instance into the cluster. -/
  | insertInstance (i : Instance)
  /-- Somebody edits the spec of an instance. -/
  | editSpec (id : InstanceId) (spec : InstanceSpec)
  /-- Somebody asks for an instance to go. -/
  | markDeleting (id : InstanceId)
  /-- The operator makes a complete pass over the instance of an identity. -/
  | pass (id : InstanceId)
  /-- All workloads of a namespace report that they are ready. -/
  | markReady (ns : String)
  /-- A job reports how many of its pods succeeded and failed. -/
  | setJobStatus (key : Key) (succeeded failed : Int)
  /-- Calls with a verb on a key fail from now on. -/
  | failOn (verb : Verb) (key : Key) (code : Nat)
  /-- No call is made to fail any more. -/
  | clearFailures
deriving DecidableEq

namespace Step

variable {ctx : Context}

/-- What a step does to a cluster. -/
def onCluster (ctx : Context) : Step → Cluster → Cluster
  | insertInstance i, c => (c.insertInstance i).2
  | editSpec id spec, c => c.editInstance id spec
  | markDeleting id, c => c.markDeleting id
  | pass id, c => (ctx.visit id : StoreM Cluster Action).after c
  | markReady ns, c => c.markReady ns
  | setJobStatus key succeeded failed, c => c.setJobStatus key succeeded failed
  | failOn verb key code, c => c.failOn verb key code
  | clearFailures, c => c.clearFailures

/-- What a step does to an operator and its cluster. -/
def take (ctx : Context) (op : Operator Cluster) : Step → Operator Cluster
  | pass id => StoreM.after (σ := Operator Cluster) (ctx.reconcileInstance id) op
  | s => { op with store := s.onCluster ctx op.store }

theorem take_store (s : Step) (op : Operator Cluster) :
    (s.take ctx op).store = s.onCluster ctx op.store := by
  cases s with
  | pass id => exact (ctx.reconcileInstance_tracks (σ := Cluster) id).store_after op
  | _ => rfl

end Step

/-- An operator and its cluster after a list of steps. -/
def run (ctx : Context) (op : Operator Cluster) (steps : List Step) : Operator Cluster :=
  steps.foldl (fun op s => s.take ctx op) op

variable {ctx : Context} {op : Operator Cluster} {s : Step} {steps rest : List Step}

@[simp] theorem run_nil : run ctx op [] = op := rfl

@[simp] theorem run_cons : run ctx op (s :: steps) = run ctx (s.take ctx op) steps := rfl

theorem run_append : run ctx op (steps ++ rest) = run ctx (run ctx op steps) rest :=
  List.foldl_append

/-- What is known of the cluster goes with what is noted of the steps: if every step of a kind keeps
up with its note, so does a run of such steps. -/
theorem run_follows {β : Type} {Q : β → Cluster → Prop} {note : β → Step → β}
    {allowed : Step → Prop}
    (hstep : ∀ s b c, allowed s → Q b c → Q (note b s) (s.onCluster ctx c))
    (hsteps : ∀ s ∈ steps, allowed s) {b : β} (hop : Q b op.store) :
    Q (steps.foldl note b) (run ctx op steps).store := by
  induction steps generalizing op b with
  | nil => exact hop
  | cons s steps ih =>
    refine ih (fun s' hs' => hsteps s' (List.mem_cons_of_mem _ hs')) ?_
    rw [s.take_store]
    exact hstep s b op.store (hsteps s List.mem_cons_self) hop

/-- A run knows more from the step on that tells more, if no step makes it forget. -/
theorem run_learns {β : Type} {Q R : β → Cluster → Prop} {note : β → Step → β}
    {allowed : Step → Prop}
    (hQ : ∀ s b c, allowed s → Q b c → Q (note b s) (s.onCluster ctx c))
    (hR : ∀ s b c, allowed s → R b c → R (note b s) (s.onCluster ctx c))
    (hs : ∀ b c, Q b c → R (note b s) (s.onCluster ctx c))
    (hsteps : ∀ s ∈ steps, allowed s) (hmem : s ∈ steps) {b : β} (hop : Q b op.store) :
    R (steps.foldl note b) (run ctx op steps).store := by
  obtain ⟨before, rest, rfl⟩ := List.append_of_mem hmem
  -- The steps in front of the one that tells more keep `Q`, those behind it keep `R`.
  have hbefore := run_follows hQ (fun s' hs' => hsteps s' (List.mem_append_left _ hs')) hop
  rw [List.foldl_append, List.foldl_cons, run_append, run_cons]
  refine run_follows hR (fun s' hs' => hsteps s' ?_) ?_
  · exact List.mem_append_right _ (List.mem_cons_of_mem _ hs')
  · rw [s.take_store]
    exact hs _ _ hbefore

/-! ## Steps and states of a run -/

/-- Every step of the run has a property where it is taken. -/
def Each (ctx : Context) (P : Cluster → Step → Prop) (op : Operator Cluster) : List Step → Prop
  | [] => True
  | s :: steps => P op.store s ∧ Each ctx P (s.take ctx op) steps

/-- Every state of the run has a property. -/
def Always (ctx : Context) (Q : Cluster → Prop) (op : Operator Cluster) : List Step → Prop
  | [] => Q op.store
  | s :: steps => Q op.store ∧ Always ctx Q (s.take ctx op) steps

/-- How many steps of the run have a property where they are taken. -/
def tally (ctx : Context) (P : Cluster → Step → Prop) [∀ c s, Decidable (P c s)]
    (op : Operator Cluster) : List Step → Nat
  | [] => 0
  | s :: steps => (if P op.store s then 1 else 0) + tally ctx P (s.take ctx op) steps

/-- A property of states holds after the step, and did not hold before. -/
def Begins (ctx : Context) (Q : Cluster → Prop) (c : Cluster) (s : Step) : Prop :=
  ¬ Q c ∧ Q (s.onCluster ctx c)

section

variable {Q : Cluster → Prop} [DecidablePred Q]

instance (c : Cluster) (s : Step) : Decidable (Begins ctx Q c s) :=
  inferInstanceAs (Decidable (_ ∧ _))

instance decideAlways : ∀ (op : Operator Cluster) (steps : List Step),
    Decidable (Always ctx Q op steps)
  | op, [] => inferInstanceAs (Decidable (Q op.store))
  | op, s :: steps =>
    have := decideAlways (s.take ctx op) steps
    inferInstanceAs (Decidable (Q op.store ∧ _))

/-- What never ceases to hold begins to hold once at most. -/
theorem tally_begins_le (h : Each ctx (fun c s => Q c → Q (s.onCluster ctx c)) op steps) :
    tally ctx (Begins ctx Q) op steps ≤ if Q op.store then 0 else 1 := by
  induction steps generalizing op with
  | nil => exact Nat.zero_le _
  | cons s steps ih =>
    have hrest := ih h.2
    rw [s.take_store] at hrest
    rw [tally]
    by_cases hbefore : Q op.store
    · have hs : ¬ Begins ctx Q op.store s := fun hbegins => hbegins.1 hbefore
      rw [if_pos (h.1 hbefore)] at hrest
      rw [if_neg hs, if_pos hbefore]
      omega
    · rw [if_neg hbefore]
      by_cases hafter : Q (s.onCluster ctx op.store)
      · have hs : Begins ctx Q op.store s := ⟨hbefore, hafter⟩
        rw [if_pos hafter] at hrest
        rw [if_pos hs]
        omega
      · have hs : ¬ Begins ctx Q op.store s := fun hbegins => hafter hbegins.2
        rw [if_neg hafter] at hrest
        rw [if_neg hs]
        omega

end

theorem each_of_forall {P : Step → Prop} (h : ∀ s ∈ steps, P s) :
    Each ctx (fun _ => P) op steps := by
  induction steps generalizing op with
  | nil => trivial
  | cons s steps ih =>
    exact ⟨h s List.mem_cons_self, ih fun s' hs' => h s' (List.mem_cons_of_mem _ hs')⟩

theorem Each.and {P P' : Cluster → Step → Prop} (h : Each ctx P op steps)
    (h' : Each ctx P' op steps) : Each ctx (fun c s => P c s ∧ P' c s) op steps := by
  induction steps generalizing op with
  | nil => trivial
  | cons s steps ih => exact ⟨⟨h.1, h'.1⟩, ih h.2 h'.2⟩

theorem Each.imp {P P' : Cluster → Step → Prop} (hP : ∀ c s, P c s → P' c s)
    (h : Each ctx P op steps) : Each ctx P' op steps := by
  induction steps generalizing op with
  | nil => trivial
  | cons s steps ih => exact ⟨hP _ _ h.1, ih h.2⟩

/-- What every step preserves, a run preserves. -/
theorem run_each {P : Cluster → Step → Prop} {I : Cluster → Prop}
    (hstep : ∀ c s, I c → P c s → I (s.onCluster ctx c)) (hinv : I op.store)
    (hsteps : Each ctx P op steps) : I (run ctx op steps).store := by
  induction steps generalizing op with
  | nil => exact hinv
  | cons s steps ih =>
    refine ih ?_ hsteps.2
    rw [s.take_store]
    exact hstep _ _ hinv hsteps.1

/-- What every step preserves holds all along a run. -/
theorem always_of_each {P : Cluster → Step → Prop} {I Q : Cluster → Prop}
    (hstep : ∀ c s, I c → P c s → I (s.onCluster ctx c)) (hgood : ∀ c, I c → Q c)
    (hinv : I op.store) (hsteps : Each ctx P op steps) : Always ctx Q op steps := by
  induction steps generalizing op with
  | nil => exact hgood _ hinv
  | cons s steps ih =>
    refine ⟨hgood _ hinv, ih ?_ hsteps.2⟩
    rw [s.take_store]
    exact hstep _ _ hinv hsteps.1

/-- If the invariant breaks at harmful steps only, and every harmful step leads to a bad state, then
a run goes well exactly if no step of it is harmful. -/
theorem always_iff_each_not {P harmful : Cluster → Step → Prop} {I Q : Cluster → Prop}
    (hstep : ∀ c s, I c → P c s → ¬ harmful c s → I (s.onCluster ctx c))
    (hgood : ∀ c, I c → Q c)
    (hbad : ∀ c s, I c → P c s → harmful c s → ¬ Q (s.onCluster ctx c))
    (hinv : I op.store) (hsteps : Each ctx P op steps) :
    Always ctx Q op steps ↔ Each ctx (fun c s => ¬ harmful c s) op steps := by
  induction steps generalizing op with
  | nil => exact iff_of_true (hgood _ hinv) trivial
  | cons s steps ih =>
    obtain ⟨hs, hsteps⟩ := hsteps
    constructor
    · rintro ⟨-, hrest⟩
      have hs' : ¬ harmful op.store s := by
        intro hharm
        refine hbad _ _ hinv hs hharm ?_
        rw [← s.take_store]
        cases steps with
        | nil => exact hrest
        | cons s' steps => exact hrest.1
      have hnext : I (s.take ctx op).store := by
        rw [s.take_store]
        exact hstep _ _ hinv hs hs'
      exact ⟨hs', (ih hnext hsteps).1 hrest⟩
    · rintro ⟨hs', hrest⟩
      have hnext : I (s.take ctx op).store := by
        rw [s.take_store]
        exact hstep _ _ hinv hs hs'
      exact ⟨hgood _ hinv, (ih hnext hsteps).2 hrest⟩

end NodeFeatureOperator
