import NodeFeatureOperator.Object

/-!
# Parts of templates

A template is the object of a resource before the settings of an instance are laid on it. The
functions here build what several templates have in common. All they build is in normal form, with
the names of every record in order.
-/

namespace NodeFeatureOperator.Template

/-- A template with this name, these labels and this body. -/
def object (kind : Kind) (name : String) (labels : Option (Table String String))
    (body : Json.Fields) : ManagedObject :=
  ⟨kind, kind.names, { name := some name, labels }, body⟩

/-- The label by which the pods of a workload are found. -/
def appLabel (name : String) : Table String String := [("app", name)]

/-- A service account. -/
def account (name : String) : ManagedObject := object .serviceAccount name none []

/-- A rule of a role: what may be done with which resources. -/
def rule (groups resources verbs : List String) : Json :=
  .obj [("apiGroups", .ofStrings groups), ("resources", .ofStrings resources),
    ("verbs", .ofStrings verbs)]

/-- A role of either scope with its rules. -/
def role (kind : Kind) (name : String) (rules : List Json) : ManagedObject :=
  object kind name none [("rules", .arr rules)]

/-- A binding of the service account `name` to the role of that name. -/
def binding (kind roleKind : Kind) (name : String) : ManagedObject :=
  object kind name none [
    ("roleRef", .obj [("apiGroup", .str Kind.role.group), ("kind", .str roleKind.toText),
      ("name", .str name)]),
    ("subjects", .arr [.obj [("kind", .str Kind.serviceAccount.toText), ("name", .str name),
      ("namespace", .str "default")]])]

/-- An environment variable that takes its value from a field of the pod. -/
def fieldVariable (name path : String) : Json :=
  .obj [("name", .str name),
    ("valueFrom", .obj [("fieldRef", .obj [("fieldPath", .str path)])])]

/-- The rights of a container, which drops every capability; `user` says who runs it. -/
def rights (user : String × Json) : Json :=
  .obj [("allowPrivilegeEscalation", .bool false),
    ("capabilities", .obj [("drop", .ofStrings ["ALL"])]),
    ("readOnlyRootFilesystem", .bool true), user]

/-- Any user but the root of the node runs the container. -/
def nonRoot : String × Json := ("runAsNonRoot", .bool true)

/-- The root of the node runs the container. -/
def root : String × Json := ("runAsUser", .int 0)

/-- A place in a container where a volume is mounted. -/
def mount (name path : String) : Json := .obj [("mountPath", .str path), ("name", .str name)]

/-- A place in a container where a volume is mounted and cannot be written. -/
def readOnlyMount (name path : String) : Json :=
  .obj [("mountPath", .str path), ("name", .str name), ("readOnly", .bool true)]

/-- A volume that is a path of the node. -/
def hostVolume (name path : String) : Json :=
  .obj [("hostPath", .obj [("path", .str path)]), ("name", .str name)]

/-- The tolerance of a taint with this key, which keeps other pods off a node. -/
def tolerate (key : String) : Json :=
  .obj [("effect", .str "NoSchedule"), ("key", .str key), ("operator", .str "Equal")]

/-- The tolerance of the taints of the nodes that run the control plane. -/
def tolerateControlPlane : Json :=
  .arr [tolerate "node-role.kubernetes.io/control-plane", tolerate "node-role.kubernetes.io/master"]

/-- The pods of a workload, with its label. -/
def pods (name : String) (spec : Json.Fields) : Json :=
  .obj [("metadata", .obj [("labels", .ofStringTable (appLabel name))]), ("spec", .obj spec)]

/-- The selector of the pods of a workload. -/
def selector (name : String) : Json := .obj [("matchLabels", .ofStringTable (appLabel name))]

/-- A daemon set, which runs a pod on every node. -/
def daemonSet (name : String) (spec : Json.Fields) : ManagedObject :=
  object .daemonSet name (appLabel name)
    [("spec", .obj [("selector", selector name), ("template", pods name spec)])]

/-- A deployment of one pod. -/
def deployment (name : String) (spec : Json.Fields) : ManagedObject :=
  object .deployment name (appLabel name)
    [("spec", .obj [("replicas", .int 1), ("selector", selector name),
      ("template", pods name spec)])]

/-- The way of an option of a security policy to be set, by its type. -/
def strategy (type : String) : Json := .obj [("type", .str type)]

/-- The volumes that pods with a security policy may use. -/
def policyVolumes : Json := .ofStrings ["configMap", "hostPath", "projected", "secret"]

/-- The user that a service account of the default namespace is. -/
def policyUsers (name : String) : Json :=
  .ofStrings ["system:serviceaccount:default:" ++ name]

end NodeFeatureOperator.Template
