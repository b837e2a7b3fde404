import NodeFeatureOperator.Api.Session
import NodeFeatureOperator.Operator

/-!
# Starting the operator

Before the operator starts to watch instances it makes sure that the API server knows them. A fresh
operator has counted nothing, and what it shows of itself is when it was last busy.
-/

namespace NodeFeatureOperator

/-- What the operator says when the API server does not list instances. -/
def notInstalled (cause : ApiFailure) : Error :=
  .configuration ("is the crd installed? please run: cargo run --bin crdgen | kubectl apply -f - ("
    ++ cause.toText ++ ")")

namespace Operator

/-- A fresh operator on a store. -/
def fresh [Store σ] (store : σ) : Operator σ := { store, lastEvent := Store.now store }

/-- The document in which an operator tells when it was last busy. -/
def diagnostics (op : Operator σ) : Json := .obj [("last_event", .str op.lastEvent.toText)]

/-- Makes sure that the API server lists the instances that the settings say to watch. -/
def checkInstalled (settings : Settings) : StoreM Api.Session Unit := do
  let _ ← Api.Session.wrapped notInstalled (Api.Session.list settings.watchNamespace (some 1))

/-- The operator as it starts to work with an API server. -/
def start (settings : Settings) (session : Api.Session) : Except Error (Operator Api.Session) :=
  match checkInstalled settings session with
  | .ok _ session => .ok (fresh session)
  | .error e _ => .error e

end Operator

end NodeFeatureOperator
