import NodeFeatureOperator.Kind

/-!
# Keys

The identity of a managed object: its kind, its namespace if it has one, and its name. Keys are
ordered by kind, then by namespace with the keys without one in front, then by name.
-/

namespace NodeFeatureOperator

/-- The identity of a managed object. -/
structure Key where
  kind : Kind
  ns : Option String
  name : String
deriving DecidableEq, Repr, Inhabited

namespace Key

/-- The order of namespaces: none comes first. -/
def compareNs : Option String → Option String → Ordering
  | none, none => .eq
  | none, some _ => .lt
  | some _, none => .gt
  | some a, some b => compare a b

instance : Ord Key where
  compare a b :=
    ((compare a.kind.index b.kind.index).then (compareNs a.ns b.ns)).then (compare a.name b.name)

/-- The key of a name in a namespace. -/
def namespaced (kind : Kind) (ns name : String) : Key := ⟨kind, some ns, name⟩

/-- The key of a name in the cluster. -/
def cluster (kind : Kind) (name : String) : Key := ⟨kind, none, name⟩

/-- The key of what an instance in namespace `ns` deploys under a name. -/
def forInstance (kind : Kind) (ns name : String) : Key :=
  if kind.clusterScoped then cluster kind name else namespaced kind ns name

/-- The text of a key: the kind, then the name behind its namespace. -/
def toText (k : Key) : String :=
  match k.ns with
  | some ns => k.kind.toText ++ " " ++ ns ++ "/" ++ k.name
  | none => k.kind.toText ++ " " ++ k.name

/-- The keys in order, each once. -/
def sorted (keys : List Key) : List Key :=
  Table.keys (Table.ofRows (keys.map fun k => (k, ())))

end Key

end NodeFeatureOperator
