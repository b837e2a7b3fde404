import NodeFeatureOperator.Template.Basic

/-!
# Templates of the master

The master collects what the workers find out and labels the nodes.
-/

namespace NodeFeatureOperator.Template

/-- What the master may do in the cluster. -/
def masterRole : ManagedObject :=
  role .clusterRole "nfd-master" [
    rule [""] ["nodes", "nodes/status"] ["get", "list", "patch", "update", "watch"],
    rule ["nfd.k8s-sigs.io"] ["nodefeatures", "nodefeaturerules", "nodefeaturegroups"]
      ["get", "list", "watch"],
    rule ["nfd.k8s-sigs.io"] ["nodefeaturegroups/status"] ["patch", "update"],
    rule ["coordination.k8s.io"] ["leases"] ["create", "get", "update"]]

/-- The question whether the master is well. -/
def masterProbe : String × Json := ("grpc", .obj [("port", .int 8082)])

/-- The container of the master. -/
def masterContainer : Json :=
  .obj [
    ("args", .arr []),
    ("command", .ofStrings ["nfd-master"]),
    ("env", .arr [fieldVariable "NODE_NAME" "spec.nodeName"]),
    ("image", .str "placeholder"),
    ("imagePullPolicy", .str "Always"),
    ("livenessProbe", .obj [masterProbe, ("initialDelaySeconds", .int 10)]),
    ("name", .str "nfd-master"),
    ("ports", .arr [.obj [("containerPort", .int 12000), ("name", .str "grpc")]]),
    ("readinessProbe", .obj [("failureThreshold", .int 10), masterProbe,
      ("initialDelaySeconds", .int 5)]),
    ("securityContext", rights nonRoot)]

/-- The master. -/
def masterDeployment : ManagedObject :=
  deployment "nfd-master" [
    ("containers", .arr [masterContainer]),
    ("enableServiceLinks", .bool false),
    ("serviceAccountName", .str "nfd-master"),
    ("tolerations", tolerateControlPlane)]

/-- The address of the master. -/
def masterService : ManagedObject :=
  object .service "nfd-master" none [
    ("spec", .obj [
      ("ports", .arr [.obj [("name", .str "grpc"), ("port", .int 12000),
        ("protocol", .str "TCP"), ("targetPort", .int 12000)]]),
      ("selector", .ofStringTable (appLabel "nfd-master")),
      ("type", .str "ClusterIP")])]

/-- The templates of the master. -/
def master : List ManagedObject :=
  [account "nfd-master", masterRole, binding .clusterRoleBinding .clusterRole "nfd-master",
    binding .roleBinding .clusterRole "nfd-master", masterDeployment, masterService]

end NodeFeatureOperator.Template
