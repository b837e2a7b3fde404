import NodeFeatureOperator.Object
import NodeFeatureOperator.Instance

/-!
# Resources

A resource is what the operator deploys for every instance: a kind and a name. Where the instance
lives decides the key of the object that stands for it.
-/

namespace NodeFeatureOperator

/-- Something that the operator deploys for an instance. -/
structure Resource where
  kind : Kind
  name : String
deriving DecidableEq, Repr, Inhabited

namespace Resource

instance : Ord Resource where
  compare a b := (compare a.kind.index b.kind.index).then (compare a.name b.name)

/-- The key of the object that stands for a resource of an instance. -/
def key (r : Resource) (i : Instance) : Key := Key.forInstance r.kind i.ns r.name

/-- The text of a resource. -/
def toText (r : Resource) : String := r.kind.toText ++ " " ++ r.name

@[simp] theorem key_kind (r : Resource) (i : Instance) : (r.key i).kind = r.kind := by
  unfold key Key.forInstance
  split <;> rfl

@[simp] theorem key_name (r : Resource) (i : Instance) : (r.key i).name = r.name := by
  unfold key Key.forInstance
  split <;> rfl

end Resource

end NodeFeatureOperator
