import Mathlib.Data.List.Induction
import Mathlib.Data.List.Infix

/-!
# Histories

A history is a list of what has happened, the last thing last, and its prefixes are the moments that
it went through. What holds at its end and did not hold at its beginning came about at some moment
and has held ever since (`exists_since`).
-/

namespace NodeFeatureOperator

variable {α : Type} {P : List α → Prop} {l before before' rest rest' : List α} {a a' : α}

/-- `P` came about with `a`, which happened after `before`, and has held throughout `rest`. -/
structure Since (P : List α → Prop) (before : List α) (a : α) (rest : List α) : Prop where
  unmet : ¬ P before
  holds : ∀ mid, mid <+: rest → P (before ++ a :: mid)

namespace Since

/-- It held when it had just come about. -/
theorem first (h : Since P before a rest) : P (before ++ [a]) := h.holds [] List.nil_prefix

theorem concat (h : Since P before a rest) (hlast : P (before ++ a :: (rest ++ [a']))) :
    Since P before a (rest ++ [a']) where
  unmet := h.unmet
  holds mid hmid := by
    rcases List.prefix_concat_iff.1 hmid with rfl | hmid
    · exact hlast
    · exact h.holds mid hmid

end Since

/-- What holds now but not in the beginning has held since some moment. -/
theorem exists_since (hnil : ¬ P []) (h : P l) :
    ∃ before a rest, l = before ++ a :: rest ∧ Since P before a rest := by
  induction l using List.reverseRecOn with
  | nil => exact absurd h hnil
  | append_singleton l a ih =>
    by_cases hl : P l
    · obtain ⟨before, a₀, rest, rfl, hsince⟩ := ih hl
      have hlist : before ++ a₀ :: rest ++ [a] = before ++ a₀ :: (rest ++ [a]) := by simp
      rw [hlist] at h
      exact ⟨before, a₀, rest ++ [a], hlist, hsince.concat h⟩
    · refine ⟨l, a, [], rfl, hl, fun mid hmid => ?_⟩
      rw [List.prefix_nil.1 hmid]
      exact h

/-- Of two moments of a history one is the other or comes before it. -/
theorem moments_cases (h : before ++ a :: rest = before' ++ a' :: rest') :
    before = before' ∧ a = a' ∨ before ++ [a] <+: before' ∨ before' ++ [a'] <+: before := by
  rcases List.append_eq_append_iff.1 h with ⟨mid, hbefore, hrest⟩ | ⟨mid, hbefore, hrest⟩
  all_goals cases mid with
  | nil =>
    obtain ⟨rfl, -⟩ := List.cons.inj hrest
    exact Or.inl ⟨by simp [hbefore], rfl⟩
  | cons b mid =>
    obtain ⟨rfl, -⟩ := List.cons.inj hrest
    simp [hbefore]

end NodeFeatureOperator
