import NodeFeatureOperator.Template.Basic

/-!
# Templates of the topology updater

The topology updater runs on every node and reports how its resources are laid out.
-/

namespace NodeFeatureOperator.Template

/-- What the topology updater may do in the cluster. -/
def topologyRole : ManagedObject :=
  role .clusterRole "nfd-topology-updater" [
    rule [""] ["nodes"] ["get", "list"],
    rule [""] ["nodes/proxy"] ["get"],
    rule [""] ["pods"] ["get"],
    rule ["topology.node.k8s.io"] ["noderesourcetopologies"] ["create", "get", "update"]]

/-- The container of the topology updater. -/
def topologyContainer : Json :=
  .obj [
    ("args", .ofStrings [
      "-kubelet-config-uri=file:///host-var/lib/kubelet/config.yaml",
      "-podresources-socket=/host-var/lib/kubelet/pod-resources/kubelet.sock",
      "-sleep-interval=3s"]),
    ("command", .ofStrings ["nfd-topology-updater"]),
    ("env", .arr [
      fieldVariable "NODE_NAME" "spec.nodeName",
      fieldVariable "NODE_ADDRESS" "status.hostIP"]),
    ("image", .str "placeholder"),
    ("imagePullPolicy", .str "Always"),
    ("name", .str "nfd-topology-updater"),
    ("securityContext", rights root),
    ("volumeMounts", .arr [
      mount "kubelet-config" "/host-var/lib/kubelet/config.yaml",
      mount "kubelet-podresources-sock" "/host-var/lib/kubelet/pod-resources/kubelet.sock",
      mount "host-sys" "/host-sys"])]

/-- The topology updater on every node. -/
def topologyDaemonSet : ManagedObject :=
  daemonSet "nfd-topology-updater" [
    ("containers", .arr [topologyContainer]),
    ("dnsPolicy", .str "ClusterFirstWithHostNet"),
    ("serviceAccountName", .str "nfd-topology-updater"),
    ("volumes", .arr [
      hostVolume "kubelet-config" "/var/lib/kubelet/config.yaml",
      hostVolume "kubelet-podresources-sock" "/var/lib/kubelet/pod-resources/kubelet.sock",
      hostVolume "host-sys" "/sys"])]

/-- The security policy of the topology updater. -/
def topologyPolicy : ManagedObject :=
  object .securityContextConstraints "nfd-topology-updater" none [
    ("allowHostDirVolumePlugin", .bool true),
    ("allowHostIPC", .bool false),
    ("allowHostNetwork", .bool false),
    ("allowHostPID", .bool false),
    ("allowHostPorts", .bool false),
    ("allowPrivilegeEscalation", .bool false),
    ("allowPrivilegedContainer", .bool false),
    ("fsGroup", strategy "RunAsAny"),
    ("groups", .arr []),
    ("readOnlyRootFilesystem", .bool true),
    ("requiredDropCapabilities", .ofStrings ["ALL"]),
    ("runAsUser", strategy "RunAsAny"),
    ("seLinuxContext", .obj [("seLinuxOptions", strategy "container_runtime_t"),
      ("type", .str "MustRunAs")]),
    ("supplementalGroups", strategy "RunAsAny"),
    ("users", policyUsers "nfd-topology-updater"),
    ("volumes", policyVolumes)]

/-- The templates of the topology updater. -/
def topologyUpdater : List ManagedObject :=
  [account "nfd-topology-updater", topologyRole,
    binding .clusterRoleBinding .clusterRole "nfd-topology-updater", topologyDaemonSet,
    topologyPolicy]

end NodeFeatureOperator.Template
