import NodeFeatureOperator.Template.Basic

/-!
# Templates of the prune job

The prune job takes all labels off the nodes when an instance goes.
-/

namespace NodeFeatureOperator.Template

/-- What the prune job may do in the cluster. -/
def pruneRole : ManagedObject :=
  role .clusterRole "nfd-prune" [
    rule [""] ["nodes", "nodes/status"] ["get", "list", "patch", "update"]]

/-- The container of the prune job. -/
def pruneContainer : Json :=
  .obj [
    ("args", .ofStrings ["-prune"]),
    ("command", .ofStrings ["nfd-master"]),
    ("image", .str "placeholder"),
    ("imagePullPolicy", .str "Always"),
    ("name", .str "nfd-prune"),
    ("securityContext", rights nonRoot)]

/-- The prune job. -/
def pruneJob : ManagedObject :=
  object .job "nfd-prune" (appLabel "nfd-prune") [
    ("spec", .obj [
      ("backoffLimit", .int 0),
      ("completions", .int 1),
      ("parallelism", .int 1),
      ("template", pods "nfd-prune" [
        ("containers", .arr [pruneContainer]),
        ("restartPolicy", .str "Never"),
        ("serviceAccountName", .str "nfd-prune"),
        ("tolerations", tolerateControlPlane)])])]

/-- The templates of the prune job. -/
def prune : List ManagedObject :=
  [account "nfd-prune", pruneRole, binding .clusterRoleBinding .clusterRole "nfd-prune", pruneJob]

end NodeFeatureOperator.Template
