import NodeFeatureOperator.Template.Basic

/-!
# Templates of the worker

The worker runs on every node and finds out its features.
-/

namespace NodeFeatureOperator.Template

/-- What the worker may do in its namespace. -/
def workerRole : ManagedObject :=
  role .role "nfd-worker" [
    rule ["nfd.k8s-sigs.io"] ["nodefeatures"] ["create", "get", "update"],
    rule [""] ["pods"] ["get"]]

/-- The configuration files of the worker. -/
def workerConfig : ManagedObject :=
  object .configMap "nfd-worker" none [("data", .ofStringTable [("nfd-worker.conf", "")])]

/-- The container of the worker. -/
def workerContainer : Json :=
  .obj [
    ("args", .arr []),
    ("command", .ofStrings ["nfd-worker"]),
    ("env", .arr [
      fieldVariable "NODE_NAME" "spec.nodeName",
      fieldVariable "POD_NAME" "metadata.name",
      fieldVariable "POD_UID" "metadata.uid"]),
    ("image", .str "placeholder"),
    ("imagePullPolicy", .str "Always"),
    ("name", .str "nfd-worker"),
    ("securityContext", rights nonRoot),
    ("volumeMounts", .arr [
      readOnlyMount "host-boot" "/host-boot",
      readOnlyMount "host-os-release" "/host-etc/os-release",
      readOnlyMount "host-sys" "/host-sys",
      readOnlyMount "host-usr-lib" "/host-usr/lib",
      readOnlyMount "host-lib" "/host-lib",
      readOnlyMount "source-d" "/etc/kubernetes/node-feature-discovery/source.d/",
      readOnlyMount "features-d" "/etc/kubernetes/node-feature-discovery/features.d/",
      readOnlyMount "nfd-worker-config" "/etc/kubernetes/node-feature-discovery"])]

/-- The volume of the configuration files of the worker. -/
def workerConfigVolume : Json :=
  .obj [
    ("configMap", .obj [
      ("items", .arr [
        .obj [("key", .str "nfd-worker.conf"), ("path", .str "nfd-worker.conf")]]),
      ("name", .str "nfd-worker")]),
    ("name", .str "nfd-worker-config")]

/-- The worker on every node. -/
def workerDaemonSet : ManagedObject :=
  daemonSet "nfd-worker" [
    ("containers", .arr [workerContainer]),
    ("dnsPolicy", .str "ClusterFirstWithHostNet"),
    ("serviceAccountName", .str "nfd-worker"),
    ("tolerations", .arr [.obj [("effect", .str "NoSchedule"), ("operator", .str "Exists")]]),
    ("volumes", .arr [
      hostVolume "host-boot" "/boot",
      hostVolume "host-os-release" "/etc/os-release",
      hostVolume "host-sys" "/sys",
      hostVolume "host-usr-lib" "/usr/lib",
      hostVolume "host-lib" "/lib",
      hostVolume "source-d" "/etc/kubernetes/node-feature-discovery/source.d/",
      hostVolume "features-d" "/etc/kubernetes/node-feature-discovery/features.d/",
      workerConfigVolume])]

/-- The security policy of the worker. -/
def workerPolicy : ManagedObject :=
  object .securityContextConstraints "nfd-worker" none [
    ("allowHostDirVolumePlugin", .bool true),
    ("allowHostIPC", .bool false),
    ("allowHostNetwork", .bool false),
    ("allowHostPID", .bool false),
    ("allowHostPorts", .bool false),
    ("allowPrivilegeEscalation", .bool false),
    ("allowPrivilegedContainer", .bool false),
    ("allowedCapabilities", .arr []),
    ("defaultAddCapabilities", .arr []),
    ("fsGroup", strategy "RunAsAny"),
    ("groups", .arr []),
    ("readOnlyRootFilesystem", .bool true),
    ("requiredDropCapabilities", .ofStrings ["ALL"]),
    ("runAsUser", strategy "MustRunAsNonRoot"),
    ("seLinuxContext", strategy "RunAsAny"),
    ("supplementalGroups", strategy "RunAsAny"),
    ("users", policyUsers "nfd-worker"),
    ("volumes", policyVolumes)]

/-- The templates of the worker. -/
def worker : List ManagedObject :=
  [account "nfd-worker", workerRole, binding .roleBinding .role "nfd-worker", workerConfig,
    workerDaemonSet, workerPolicy]

end NodeFeatureOperator.Template
