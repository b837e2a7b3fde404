import NodeFeatureOperator.Json.Merge
import NodeFeatureOperator.Registry

/-!
# Desired objects

What the object of a resource should be: the template with the settings of the instance laid on it.
`ManagedObject.setDesired` changes exactly the places that the settings decide, so it can be laid on a
template and on an object that it was laid on before. `ManagedObject.laidOver` keeps of a live object
all that the desired object does not mention.
-/

namespace NodeFeatureOperator

/-- The label that says who manages an object. -/
def managedByLabel : String := "app.kubernetes.io/managed-by"

/-- The manager of all objects. -/
def managedBy : String := "nfd-operator"

/-- The label that says which instance an object belongs to. -/
def instanceLabel : String := "nfd.k8s-sigs.io/instance"

/-- The name of the configuration file of the worker. -/
def workerConfigKey : String := "nfd-worker.conf"

/-- The name of the second configuration file of the worker. -/
def customConfigKey : String := "custom.conf"

/-- The directory of the configuration files. -/
def workerConfigDir : String := "/etc/kubernetes/node-feature-discovery"

namespace Instance

/-- The argument that tells a component the name of its deployment. -/
def nameArgument (i : Instance) : List String :=
  ((nonEmpty i.spec.instanceName).map ("-instance=" ++ ·)).toList

/-- The argument for a list of texts, unless there are none. -/
def listArgument (flag : String) (texts : Option (List String)) : List String :=
  match texts with
  | some (t :: ts) => [flag ++ ",".intercalate (t :: ts)]
  | _ => []

/-- The arguments of the master. -/
def masterArguments (i : Instance) : List String :=
  ["-port=" ++ toString i.servicePort] ++ i.nameArgument
    ++ listArgument "-extra-label-ns=" i.spec.extraLabelNs
    ++ ((nonEmpty i.spec.labelWhiteList).map ("-label-whitelist=" ++ ·)).toList
    ++ listArgument "-resource-labels=" i.spec.resourceLabels

/-- The arguments of the worker. -/
def workerArguments (i : Instance) : List String :=
  ["-config=" ++ workerConfigDir ++ "/" ++ workerConfigKey,
    "-server=nfd-master:" ++ toString i.servicePort] ++ i.nameArgument

/-- The content of the second configuration file, if there is one. -/
def customConfig (i : Instance) : Option String := nonEmpty i.spec.customConfig

/-- The configuration files with their contents. -/
def configFiles (i : Instance) : Table String String :=
  (i.customConfig.map fun content => (customConfigKey, content)).toList
    ++ [(workerConfigKey, i.spec.workerConfig)]

end Instance

/-! ## Places in a pod -/

namespace Pod

/-- The pod with an image and a pull policy for all its containers. -/
def setImages (pod : Json) (image pullPolicy : String) : Json :=
  pod.modify "containers" fun cs => cs.mapItems fun c =>
    (c.set "image" (.str image)).set "imagePullPolicy" (.str pullPolicy)

/-- The pod with `f` applied to its first container. -/
def modifyFirstContainer (pod : Json) (f : Json → Json) : Json :=
  pod.modify "containers" fun cs => cs.modifyHead f

/-- The pod with the arguments of its first container. -/
def setArguments (pod : Json) (arguments : List String) : Json :=
  modifyFirstContainer pod fun c => c.set "args" (.ofStrings arguments)

/-- The pod whose first container has one more argument, unless it has it already. -/
def addArguments (pod : Json) (arguments : List String) : Json :=
  modifyFirstContainer pod fun c =>
    let present := ((c.get? "args").bind Json.asArray?).getD []
    let missing := (arguments.map Json.str).filter (· ∉ present)
    c.set "args" (.arr (present ++ missing))

/-- The pod with the first port of its first container. -/
def setPort (pod : Json) (port : Int) : Json :=
  modifyFirstContainer pod fun c => c.modify "ports" fun ps =>
    ps.modifyHead fun p => p.set "containerPort" (.int port)

/-- A file of a configuration volume, under its own name. -/
def configItem (name : String) : Json := .obj [("key", .str name), ("path", .str name)]

/-- The pod with the files of its first configuration volume. -/
def setConfigItems (pod : Json) (names : List String) : Json :=
  pod.modify "volumes" fun vs => vs.modifyFirst (fun v => (v.get? "configMap").isSome) fun v =>
    v.modify "configMap" fun m => m.set "items" (.arr (names.map configItem))

end Pod

/-- What comes before the namespace in the user that a service account is. -/
def accountUser : String := "system:serviceaccount:"

/-- The user that the service account of the same name is in another namespace. Other users stay. -/
def moveUser (ns user : String) : String :=
  let lead := accountUser.toList
  let cs := user.toList
  if lead.isPrefixOf cs then
    match (cs.drop lead.length).dropWhile (· ≠ ':') with
    | ':' :: account => accountUser ++ ns ++ ":" ++ String.ofList account
    | _ => user
  else user

namespace ManagedObject

/-- The path of the pod in the body of a workload. -/
def podPath : List String := ["spec", "template", "spec"]

/-- The object with the namespace and the labels of an instance. -/
def setPlace (o : ManagedObject) (i : Instance) : ManagedObject :=
  o.mapMetadata fun m =>
    let labels := Table.insert (m.labels.getD []) managedByLabel managedBy
    if o.kind.clusterScoped then { m with labels := some labels }
    else { m with ns := some i.ns, labels := some (Table.insert labels instanceLabel i.name) }

/-- The body of an object with the settings of an instance laid on it. -/
def setBody (o : ManagedObject) (i : Instance) (image : String) : ManagedObject :=
  let images (pod : Json) : Json := Pod.setImages pod image i.pullPolicy
  match o.kind with
  | .roleBinding | .clusterRoleBinding =>
    o.modifyAt ["subjects"] fun subjects => subjects.mapItems (·.set "namespace" (.str i.ns))
  | .securityContextConstraints =>
    o.modifyAt ["users"] fun users => users.mapItems fun
      | .str user => .str (moveUser i.ns user)
      | j => j
  | .configMap => o.setField "data" (.ofStringTable i.configFiles)
  | .daemonSet =>
    if o.metadata.name = some "nfd-worker" then
      o.modifyAt podPath fun pod =>
        Pod.setConfigItems (Pod.setArguments (images pod) i.workerArguments)
          (workerConfigKey :: (i.customConfig.map fun _ => customConfigKey).toList)
    else o.modifyAt podPath images
  | .deployment =>
    if o.metadata.name = some "nfd-master" then
      o.modifyAt podPath fun pod =>
        Pod.setPort (Pod.setArguments (images pod) i.masterArguments) i.servicePort
    else o.modifyAt podPath images
  | .service =>
    o.modifyAt ["spec", "ports"] fun ports => ports.modifyHead fun p =>
      (p.set "port" (.int i.servicePort)).set "targetPort" (.int i.servicePort)
  | .job => o.modifyAt podPath fun pod => Pod.addArguments (images pod) i.nameArgument
  | .serviceAccount | .role | .clusterRole => o

/-- The object with the settings of an instance laid on it. -/
def setDesired (o : ManagedObject) (i : Instance) (image : String) : ManagedObject :=
  (o.setPlace i).setBody i image

/-- The document of a live object before another is laid over it. The files of a configuration are
those of the other. -/
def liveBase (live desired : ManagedObject) : Json :=
  match desired.kind, desired.toJson.get? "data" with
  | .configMap, some data => live.toJson.set "data" data
  | _, _ => live.toJson

/-- The document of a desired object, without what the server decides. -/
def wanted (desired : ManagedObject) : Json :=
  (desired.mapMetadata fun m => { m with resourceVersion := none, uid := none }).toJson

/-- The live object with the desired one laid over it. -/
def laidOver (live desired : ManagedObject) : Except Error ManagedObject :=
  match decode? live.kind (Json.merge (liveBase live desired) desired.wanted) with
  | some o => .ok o
  | none => .error .serialization

end ManagedObject

/-- The desired object of a resource of an instance. -/
def Registry.render (r : Registry) (i : Instance) (resource : Resource) (image : String) :
    Except Error ManagedObject :=
  match r.get resource with
  | .ok o => .ok (o.setDesired i image)
  | .error e => .error e

end NodeFeatureOperator
