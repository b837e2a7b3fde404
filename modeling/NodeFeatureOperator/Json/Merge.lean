import NodeFeatureOperator.Json.Basic

/-!
# Laying one document over another

`Json.merge live desired` lays `desired` over `live`: objects merge name by name, arrays of one
length merge item by item, and anything else is replaced. What `desired` does not mention stays.
`Json.Covered` says when there is nothing to lay: `live` already holds all that `desired` asks for.
-/

namespace NodeFeatureOperator.Json

mutual

/-- `live` with `desired` laid over it. -/
def merge (live : Json) : (desired : Json) → Json
  | .obj ds =>
    match live with
    | .obj ls => .obj (mergeFields ls ds)
    | _ => .obj ds
  | .arr ds =>
    match live with
    | .arr ls => if ls.length = ds.length then .arr (mergeItems ls ds) else .arr ds
    | _ => .arr ds
  | d => d

/-- Fields with other fields laid over them, one after the other. -/
def mergeFields (live : Fields) : (desired : List (String × Json)) → Fields
  | [] => live
  | (k, d) :: ds =>
    match Table.get? live k with
    | some l => mergeFields (Table.insert live k (merge l d)) ds
    | none => mergeFields (Table.insert live k d) ds

/-- Items with other items laid over them, position by position. -/
def mergeItems (live : List Json) : (desired : List Json) → List Json
  | [] => []
  | d :: ds =>
    match live with
    | l :: ls => merge l d :: mergeItems ls ds
    | [] => []

end

mutual

/-- Whether `live` holds all that `desired` asks for: every name of an object with its document
held, every item of an array of the same length held, anything else equal. -/
def Covered (live : Json) : (desired : Json) → Bool
  | .obj ds =>
    match live with
    | .obj ls => CoveredFields ls ds
    | _ => false
  | .arr ds =>
    match live with
    | .arr ls => if ls.length = ds.length then CoveredItems ls ds else false
    | _ => false
  | d => decide (live = d)

/-- Whether every field asked for is there and holds what is asked of it. -/
def CoveredFields (live : Fields) : (desired : List (String × Json)) → Bool
  | [] => true
  | (k, d) :: ds =>
    match Table.get? live k with
    | some l => Covered l d && CoveredFields live ds
    | none => false

/-- Whether every item holds what is asked of it. -/
def CoveredItems (live : List Json) : (desired : List Json) → Bool
  | [] => true
  | d :: ds =>
    match live with
    | l :: ls => Covered l d && CoveredItems ls ds
    | [] => false

end

end NodeFeatureOperator.Json
