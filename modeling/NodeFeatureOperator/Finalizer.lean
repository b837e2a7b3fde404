/-!
# Finalizers

A finalizer is a text in the metadata of an object that keeps the server from removing it. Whoever
put it there takes it out again once its cleaning up is done.
-/

namespace NodeFeatureOperator.Finalizer

/-- The finalizer of the operator. -/
def own : String := "nfd.k8s-sigs.io/finalizer"

/-- The list with a finalizer at its end, unless it is there already. -/
def add (finalizers : List String) (finalizer : String) : List String :=
  if finalizer ∈ finalizers then finalizers else finalizers ++ [finalizer]

/-- The list without a finalizer. -/
def remove (finalizers : List String) (finalizer : String) : List String :=
  finalizers.filter (· ≠ finalizer)

theorem mem_add (finalizers : List String) (finalizer : String) :
    finalizer ∈ add finalizers finalizer := by
  unfold add
  split <;> simp_all

theorem not_mem_remove (finalizers : List String) (finalizer : String) :
    finalizer ∉ remove finalizers finalizer := by
  simp [remove]

end NodeFeatureOperator.Finalizer
