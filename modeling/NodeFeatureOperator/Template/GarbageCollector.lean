import NodeFeatureOperator.Template.Basic

/-!
# Templates of the garbage collector

The garbage collector removes what was reported about nodes that are gone.
-/

namespace NodeFeatureOperator.Template

/-- What the garbage collector may do in the cluster. -/
def collectorRole : ManagedObject :=
  role .clusterRole "nfd-gc" [
    rule [""] ["nodes"] ["list", "watch"],
    rule ["nfd.k8s-sigs.io"] ["nodefeatures"] ["list", "watch", "delete"],
    rule ["topology.node.k8s.io"] ["noderesourcetopologies"] ["list", "delete"]]

/-- The container of the garbage collector. -/
def collectorContainer : Json :=
  .obj [
    ("args", .ofStrings ["-gc-interval=1h"]),
    ("command", .ofStrings ["nfd-gc"]),
    ("image", .str "placeholder"),
    ("imagePullPolicy", .str "Always"),
    ("name", .str "nfd-gc"),
    ("securityContext", rights nonRoot)]

/-- The garbage collector. -/
def collectorDeployment : ManagedObject :=
  deployment "nfd-gc" [
    ("containers", .arr [collectorContainer]),
    ("dnsPolicy", .str "ClusterFirstWithHostNet"),
    ("serviceAccountName", .str "nfd-gc")]

/-- The templates of the garbage collector. -/
def garbageCollector : List ManagedObject :=
  [account "nfd-gc", collectorRole, binding .clusterRoleBinding .clusterRole "nfd-gc",
    collectorDeployment]

end NodeFeatureOperator.Template
