import NodeFeatureOperator.Store
import Mathlib.Order.Defs.Unbundled

/-!
# What a computation does to its state

A computation on a store ends with an answer or with an error, and in both cases it leaves a state
behind: `StoreM.after`. Two kinds of facts are told about it here.

* What an outcome says about the parts of a computation: `bind_ok`.
* What no outcome can break: a computation keeps to a relation (`StoreM.Keeps`) when the state that
  it leaves is related to the one that it began with. Computations are put together out of parts
  that keep to one relation, as long as the relation is a preorder.
-/

namespace NodeFeatureOperator.StoreM

variable {σ α β : Type}

/-- The state that a computation leaves behind, whether it answers or fails. -/
def after (m : StoreM σ α) (s : σ) : σ :=
  match m s with
  | .ok _ s' => s'
  | .error _ s' => s'

theorem after_ok {m : StoreM σ α} {s s' : σ} {a : α} (h : m s = .ok a s') : m.after s = s' := by
  unfold after
  rw [h]

theorem after_error {m : StoreM σ α} {s s' : σ} {e : Error} (h : m s = .error e s') :
    m.after s = s' := by
  unfold after
  rw [h]

/-- How a computation ends, whatever state it leaves behind. -/
def answer (m : StoreM σ α) (s : σ) : Except Error α :=
  match m s with
  | .ok a _ => .ok a
  | .error e _ => .error e

theorem answer_ok {m : StoreM σ α} {s s' : σ} {a : α} (h : m s = .ok a s') :
    m.answer s = .ok a := by
  unfold answer
  rw [h]

theorem answer_error {m : StoreM σ α} {s s' : σ} {e : Error} (h : m s = .error e s') :
    m.answer s = .error e := by
  unfold answer
  rw [h]

/-- How a computation ends and what it leaves is all there is to it. -/
theorem run_of_answer {m : StoreM σ α} {s : σ} {a : α} (h : m.answer s = .ok a) :
    m s = .ok a (m.after s) := by
  cases hrun : m s with
  | ok b s' =>
    rw [after_ok hrun]
    rw [answer_ok hrun] at h
    rw [Except.ok.inj h]
  | error e s' =>
    rw [answer_error hrun] at h
    cases h

theorem run_of_failure {m : StoreM σ α} {s : σ} {e : Error} (h : m.answer s = .error e) :
    m s = .error e (m.after s) := by
  cases hrun : m s with
  | ok b s' =>
    rw [answer_ok hrun] at h
    cases h
  | error e' s' =>
    rw [after_error hrun]
    rw [answer_error hrun] at h
    rw [Except.error.inj h]

/-- Computations with one outcome leave one state. -/
theorem after_congr {m n : StoreM σ α} {s s' : σ} (h : m s = n s') : m.after s = n.after s' := by
  unfold after
  rw [h]

/-! ## Outcomes -/

theorem pure_run (a : α) (s : σ) : (pure a : StoreM σ α) s = .ok a s := rfl

theorem throw_run (e : Error) (s : σ) : (throw e : StoreM σ α) s = .error e s := rfl

theorem bind_of_ok {m : StoreM σ α} {f : α → StoreM σ β} {s s' : σ} {a : α}
    (h : m s = .ok a s') : (m >>= f) s = f a s' := by
  change EStateM.bind m f s = f a s'
  unfold EStateM.bind
  rw [h]

theorem bind_of_error {m : StoreM σ α} {f : α → StoreM σ β} {s s' : σ} {e : Error}
    (h : m s = .error e s') : (m >>= f) s = .error e s' := by
  change EStateM.bind m f s = .error e s'
  unfold EStateM.bind
  rw [h]

/-- A sequence answers if both parts do. -/
theorem bind_ok {m : StoreM σ α} {f : α → StoreM σ β} {s s'' : σ} {b : β} :
    (m >>= f) s = .ok b s'' ↔ ∃ a s', m s = .ok a s' ∧ f a s' = .ok b s'' := by
  cases h : m s with
  | ok a s' =>
    rw [bind_of_ok h]
    constructor
    · intro hf
      exact ⟨a, s', rfl, hf⟩
    · rintro ⟨_, _, ⟨⟩, hf⟩
      exact hf
  | error e s' => simp [bind_of_error h]

/-- A sequence fails if one of its parts does. -/
theorem bind_error {m : StoreM σ α} {f : α → StoreM σ β} {s s'' : σ} {e : Error} :
    (m >>= f) s = .error e s'' ↔
      m s = .error e s'' ∨ ∃ a s', m s = .ok a s' ∧ f a s' = .error e s'' := by
  cases h : m s with
  | ok a s' =>
    rw [bind_of_ok h]
    constructor
    · intro hf
      exact Or.inr ⟨a, s', rfl, hf⟩
    · rintro (⟨⟨⟩⟩ | ⟨_, _, ⟨⟩, hf⟩)
      exact hf
  | error e' s' => simp [bind_of_error h]

theorem bind_run_congr {m n : StoreM σ α} {s s' : σ} (h : m s = n s') (f : α → StoreM σ β) :
    (m >>= f) s = (n >>= f) s' := by
  cases hn : n s' with
  | ok a s'' => rw [bind_of_ok hn, bind_of_ok (h.trans hn)]
  | error e s'' => rw [bind_of_error hn, bind_of_error (h.trans hn)]

theorem attempt_of_ok {m : StoreM σ α} {s s' : σ} {a : α} (h : m s = .ok a s') :
    m.attempt s = .ok (.ok a) s' := by
  unfold attempt
  rw [h]

theorem attempt_of_error {m : StoreM σ α} {s s' : σ} {e : Error} (h : m s = .error e s') :
    m.attempt s = .ok (.error e) s' := by
  unfold attempt
  rw [h]

theorem ofExcept_ok_iff {r : Except Error α} {s s' : σ} {a : α} :
    ofExcept r s = .ok a s' ↔ r = .ok a ∧ s' = s := by
  cases r with
  | ok b => simp [ofExcept, pure_run, eq_comm]
  | error e => simp [ofExcept, throw_run]

/-- A computation whose failure does not matter leaves what it leaves. -/
theorem bestEffort_run (m : StoreM σ Unit) (s : σ) : m.bestEffort s = .ok () (m.after s) := by
  unfold bestEffort after
  cases m s <;> rfl

/-! ## Loops -/

/-- A computation for each of some items, up to the first that fails. -/
def each (f : β → StoreM σ α) : List β → StoreM σ Unit
  | [] => pure ()
  | b :: bs => do
    let _ ← f b
    each f bs

theorem each_append (f : β → StoreM σ α) (bs bs' : List β) :
    each f (bs ++ bs') = each f bs >>= fun _ => each f bs' := by
  induction bs with
  | nil => rfl
  | cons b bs ih =>
    change (f b >>= fun _ => each f (bs ++ bs')) = _
    rw [ih]
    exact (bind_assoc ..).symm

/-- A loop that fails has got past some items and has failed at the next one. -/
theorem each_error {f : β → StoreM σ α} {bs : List β} {s s' : σ} {e : Error}
    (h : each f bs s = .error e s') :
    ∃ before b after s₁, bs = before ++ b :: after ∧ each f before s = .ok () s₁ ∧
      f b s₁ = .error e s' := by
  induction bs generalizing s with
  | nil => cases h
  | cons b bs ih =>
    rcases bind_error.1 h with hfailed | ⟨a, s₁, hdone, hrest⟩
    · exact ⟨[], b, bs, s, rfl, rfl, hfailed⟩
    · obtain ⟨before, b', after, s₂, rfl, hbefore, hfailed⟩ := ih hrest
      exact ⟨b :: before, b', after, s₂, rfl, (bind_of_ok hdone).trans hbefore, hfailed⟩

/-! ## Computations that keep to a relation -/

/-- A sequence leaves what its first part leaves where that fails, else what the second leaves. -/
theorem after_bind {m : StoreM σ α} {f : α → StoreM σ β} {s : σ} (P : σ → Prop)
    (herror : ∀ e s', m s = .error e s' → P s')
    (hok : ∀ a s', m s = .ok a s' → P ((f a).after s')) : P ((m >>= f).after s) := by
  cases h : m s with
  | ok a s' =>
    have hrest : (m >>= f).after s = (f a).after s' := by
      unfold after
      rw [bind_of_ok h]
    rw [hrest]
    exact hok a s' h
  | error e s' =>
    rw [after_error (bind_of_error h)]
    exact herror e s' h

theorem after_bind_pure (m : StoreM σ α) (f : α → β) (s : σ) :
    (m >>= fun a => pure (f a)).after s = m.after s :=
  after_bind (· = m.after s) (fun _ _ h => (after_error h).symm) fun _ _ h => (after_ok h).symm

/-- What two parts of a sequence do to the state adds up, as far as the second part is reached. -/
theorem rel_after_bind {R : σ → σ → Prop} [IsTrans σ R] {m : StoreM σ α} {f : α → StoreM σ β}
    {s : σ} (hm : R s (m.after s)) (hf : ∀ a s', m s = .ok a s' → R s' ((f a).after s')) :
    R s ((m >>= f).after s) := by
  refine after_bind (R s) (fun e s' h => ?_) fun a s' h => ?_
  · rwa [after_error h] at hm
  · rw [after_ok h] at hm
    exact trans_of R hm (hf a s' h)

/-- What holds of the first state holds of the second. -/
def Preserves (P : σ → Prop) (s s' : σ) : Prop := P s → P s'

instance (P : σ → Prop) : IsPreorder σ (Preserves P) where
  refl _ := id
  trans _ _ _ h h' hs := h' (h hs)

/-- Whatever comes of it, the computation leads to a state that `R` relates to the first one. -/
def Keeps (R : σ → σ → Prop) (m : StoreM σ α) : Prop := ∀ s, R s (m.after s)

namespace Keeps

variable {R : σ → σ → Prop}

theorem mono {S : σ → σ → Prop} {m : StoreM σ α} (hRS : ∀ s s', R s s' → S s s')
    (h : Keeps R m) : Keeps S m :=
  fun s => hRS s _ (h s)

theorem of_ok {m : StoreM σ α} (h : Keeps R m) {s s' : σ} {a : α} (hm : m s = .ok a s') :
    R s s' := by
  rw [← after_ok hm]
  exact h s

theorem of_error {m : StoreM σ α} (h : Keeps R m) {s s' : σ} {e : Error}
    (hm : m s = .error e s') : R s s' := by
  rw [← after_error hm]
  exact h s

theorem attempt {m : StoreM σ α} (hm : Keeps R m) : Keeps R m.attempt := by
  intro s
  cases h : m s with
  | ok a s' =>
    rw [after_ok (attempt_of_ok h)]
    exact hm.of_ok h
  | error e s' =>
    rw [after_ok (attempt_of_error h)]
    exact hm.of_error h

theorem bestEffort {m : StoreM σ Unit} (hm : Keeps R m) : Keeps R m.bestEffort := by
  intro s
  rw [after_ok (bestEffort_run m s)]
  exact hm s

theorem ite {m n : StoreM σ α} {p : Prop} [Decidable p] (hm : Keeps R m) (hn : Keeps R n) :
    Keeps R (if p then m else n) := by
  split
  · exact hm
  · exact hn

variable [IsPreorder σ R]

theorem pure (a : α) : Keeps R (pure a : StoreM σ α) := fun s => refl_of R s

theorem throw (e : Error) : Keeps R (throw e : StoreM σ α) := fun s => refl_of R s

theorem ofExcept (r : Except Error α) : Keeps R (ofExcept r : StoreM σ α) := by
  cases r with
  | ok a => exact pure a
  | error e => exact throw e

theorem bind {m : StoreM σ α} {f : α → StoreM σ β} (hm : Keeps R m) (hf : ∀ a, Keeps R (f a)) :
    Keeps R (m >>= f) :=
  fun s => rel_after_bind (hm s) fun a s' _ => hf a s'

end Keeps

end NodeFeatureOperator.StoreM
