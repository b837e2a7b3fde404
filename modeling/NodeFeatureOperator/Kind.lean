import NodeFeatureOperator.Schema.Resource

/-!
# Kinds

The kinds of cluster objects that the operator manages, in the order in which the store lists them.
Every kind has its name, its place in the API and the schema of its body: the part of a document
that is neither the API version, the kind nor the metadata.
-/

namespace NodeFeatureOperator

/-- A kind of managed object. -/
inductive Kind where
  | serviceAccount
  | role
  | roleBinding
  | clusterRole
  | clusterRoleBinding
  | configMap
  | daemonSet
  | deployment
  | service
  | securityContextConstraints
  | job
deriving DecidableEq, Repr, Inhabited

namespace Kind

/-- Every kind, in order. -/
def all : List Kind :=
  [serviceAccount, role, roleBinding, clusterRole, clusterRoleBinding, configMap, daemonSet,
    deployment, service, securityContextConstraints, job]

/-- The position of a kind in the order. -/
def index : Kind → Nat
  | serviceAccount => 0
  | role => 1
  | roleBinding => 2
  | clusterRole => 3
  | clusterRoleBinding => 4
  | configMap => 5
  | daemonSet => 6
  | deployment => 7
  | service => 8
  | securityContextConstraints => 9
  | job => 10

/-- The name of a kind. -/
def toText : Kind → String
  | serviceAccount => "ServiceAccount"
  | role => "Role"
  | roleBinding => "RoleBinding"
  | clusterRole => "ClusterRole"
  | clusterRoleBinding => "ClusterRoleBinding"
  | configMap => "ConfigMap"
  | daemonSet => "DaemonSet"
  | deployment => "Deployment"
  | service => "Service"
  | securityContextConstraints => "SecurityContextConstraints"
  | job => "Job"

/-- The kind of a name. -/
def ofText? (text : String) : Option Kind := all.find? fun k => k.toText = text

/-- The API group of a kind; the core group has no name. -/
def group : Kind → String
  | serviceAccount | configMap | service => ""
  | role | roleBinding | clusterRole | clusterRoleBinding => "rbac.authorization.k8s.io"
  | daemonSet | deployment => "apps"
  | securityContextConstraints => "security.openshift.io"
  | job => "batch"

/-- The version of the API group. -/
def version (_ : Kind) : String := "v1"

/-- The group and the version, as a document names them. -/
def apiVersion (k : Kind) : String :=
  if k.group = "" then k.version else k.group ++ "/" ++ k.version

/-- The name of a kind in request paths. -/
def plural : Kind → String
  | serviceAccount => "serviceaccounts"
  | role => "roles"
  | roleBinding => "rolebindings"
  | clusterRole => "clusterroles"
  | clusterRoleBinding => "clusterrolebindings"
  | configMap => "configmaps"
  | daemonSet => "daemonsets"
  | deployment => "deployments"
  | service => "services"
  | securityContextConstraints => "securitycontextconstraints"
  | job => "jobs"

/-- Whether objects of a kind belong to the whole cluster and to no namespace. -/
def clusterScoped : Kind → Bool
  | clusterRole | clusterRoleBinding | securityContextConstraints => true
  | _ => false

/-- Whether documents of a kind may name any API version and any kind. Documents of the other kinds
name their own or none. -/
def namesFreely : Kind → Bool
  | securityContextConstraints => true
  | _ => false

/-- The schema of the body of a document. -/
def body : Kind → Schema
  | serviceAccount => Schema.serviceAccountBody
  | role => Schema.roleBody
  | roleBinding => Schema.bindingBody
  | clusterRole => Schema.clusterRoleBody
  | clusterRoleBinding => Schema.bindingBody
  | configMap => Schema.configMapBody
  | daemonSet => Schema.daemonSetBody
  | deployment => Schema.deploymentBody
  | service => Schema.serviceBody
  | securityContextConstraints => Schema.securityContextConstraintsBody
  | job => Schema.jobBody

theorem ofText?_toText (k : Kind) : ofText? k.toText = some k := by
  cases k <;> decide

end Kind

end NodeFeatureOperator
