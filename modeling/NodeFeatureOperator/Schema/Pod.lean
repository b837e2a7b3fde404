import NodeFeatureOperator.Schema.Volume

/-!
# Pods

The types of a template of pods and of its parts, containers and volumes apart.
-/

namespace NodeFeatureOperator.Schema

/-- One condition on a node. -/
def nodeSelectorRequirement : Schema := .record [
  req "key" .text, req "operator" .text, opt "values" texts]

/-- Conditions that a node has to meet together. -/
def nodeSelectorTerm : Schema := .record [
  opt "matchExpressions" (.list nodeSelectorRequirement),
  opt "matchFields" (.list nodeSelectorRequirement)]

/-- Terms of which a node has to meet one. -/
def nodeSelector : Schema := .record [
  req "nodeSelectorTerms" (.list nodeSelectorTerm)]

/-- A term with its weight. -/
def preferredSchedulingTerm : Schema := .record [
  req "preference" nodeSelectorTerm, req "weight" .int32]

/-- The nodes that a pod wants. -/
def nodeAffinity : Schema := .record [
  opt "preferredDuringSchedulingIgnoredDuringExecution" (.list preferredSchedulingTerm),
  opt "requiredDuringSchedulingIgnoredDuringExecution" nodeSelector]

/-- Pods to be near to or away from. -/
def podAffinityTerm : Schema := .record [
  opt "labelSelector" labelSelector, opt "matchLabelKeys" texts, opt "mismatchLabelKeys" texts,
  opt "namespaceSelector" labelSelector, opt "namespaces" texts, req "topologyKey" .text]

/-- Pods with a weight. -/
def weightedPodAffinityTerm : Schema := .record [
  req "podAffinityTerm" podAffinityTerm, req "weight" .int32]

/-- The pods that a pod wants near or away. -/
def podAffinity : Schema := .record [
  opt "preferredDuringSchedulingIgnoredDuringExecution" (.list weightedPodAffinityTerm),
  opt "requiredDuringSchedulingIgnoredDuringExecution" (.list podAffinityTerm)]

/-- What a pod wants of its place. -/
def affinity : Schema := .record [
  opt "nodeAffinity" nodeAffinity, opt "podAffinity" podAffinity,
  opt "podAntiAffinity" podAffinity]

/-- An option of the resolver. -/
def dnsConfigOption : Schema := .record [
  opt "name" .text, opt "value" .text]

/-- The settings of the resolver. -/
def dnsConfig : Schema := .record [
  opt "nameservers" texts, opt "options" (.list dnsConfigOption), opt "searches" texts]

/-- Names for an address. -/
def hostAlias : Schema := .record [
  opt "hostnames" texts, req "ip" .text]

/-- The operating system of a pod. -/
def podOS : Schema := .record [
  req "name" .text]

/-- A condition that a ready pod has. -/
def readinessGate : Schema := .record [
  req "conditionType" .text]

/-- A claim of a pod. -/
def podResourceClaim : Schema := .record [
  req "name" .text, opt "resourceClaimName" .text, opt "resourceClaimTemplateName" .text]

/-- A gate that holds a pod back. -/
def schedulingGate : Schema := .record [
  req "name" .text]

/-- A kernel parameter. -/
def sysctl : Schema := .record [
  req "name" .text, req "value" .text]

/-- The security settings of a pod. -/
def podSecurityContext : Schema := .record [
  opt "appArmorProfile" appArmorProfile, opt "fsGroup" .int64, opt "fsGroupChangePolicy" .text,
  opt "runAsGroup" .int64, opt "runAsNonRoot" .boolean, opt "runAsUser" .int64,
  opt "seLinuxOptions" seLinuxOptions, opt "seccompProfile" seccompProfile,
  opt "supplementalGroups" (.list .int64), opt "supplementalGroupsPolicy" .text,
  opt "sysctls" (.list sysctl), opt "windowsOptions" windowsOptions]

/-- A taint that a pod bears. -/
def toleration : Schema := .record [
  opt "effect" .text, opt "key" .text, opt "operator" .text, opt "tolerationSeconds" .int64,
  opt "value" .text]

/-- How evenly pods are spread. -/
def topologySpreadConstraint : Schema := .record [
  opt "labelSelector" labelSelector, opt "matchLabelKeys" texts, req "maxSkew" .int32,
  opt "minDomains" .int32, opt "nodeAffinityPolicy" .text, opt "nodeTaintsPolicy" .text,
  req "topologyKey" .text, req "whenUnsatisfiable" .text]

/-- What runs in a pod. -/
def podSpec : Schema := .record [
  opt "activeDeadlineSeconds" .int64, opt "affinity" affinity,
  opt "automountServiceAccountToken" .boolean, req "containers" (.list container),
  opt "dnsConfig" dnsConfig, opt "dnsPolicy" .text, opt "enableServiceLinks" .boolean,
  opt "ephemeralContainers" (.list ephemeralContainer), opt "hostAliases" (.list hostAlias),
  opt "hostIPC" .boolean, opt "hostNetwork" .boolean, opt "hostPID" .boolean,
  opt "hostUsers" .boolean, opt "hostname" .text, opt "imagePullSecrets" (.list localReference),
  opt "initContainers" (.list container), opt "nodeName" .text, opt "nodeSelector" textTable,
  opt "os" podOS, opt "overhead" textTable, opt "preemptionPolicy" .text, opt "priority" .int32,
  opt "priorityClassName" .text, opt "readinessGates" (.list readinessGate),
  opt "resourceClaims" (.list podResourceClaim), opt "restartPolicy" .text,
  opt "runtimeClassName" .text, opt "schedulerName" .text,
  opt "schedulingGates" (.list schedulingGate), opt "securityContext" podSecurityContext,
  opt "serviceAccount" .text, opt "serviceAccountName" .text, opt "setHostnameAsFQDN" .boolean,
  opt "shareProcessNamespace" .boolean, opt "subdomain" .text,
  opt "terminationGracePeriodSeconds" .int64, opt "tolerations" (.list toleration),
  opt "topologySpreadConstraints" (.list topologySpreadConstraint), opt "volumes" (.list volume)]

/-- A template of pods. -/
def podTemplate : Schema := .record [
  opt "metadata" objectMeta, opt "spec" podSpec]

end NodeFeatureOperator.Schema
