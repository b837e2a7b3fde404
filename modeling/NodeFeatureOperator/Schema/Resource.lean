import NodeFeatureOperator.Schema.Pod

/-!
# Resources

The types of the objects that the operator manages, without their metadata, and of events.
-/

namespace NodeFeatureOperator.Schema

/-- What may be done to which resources. -/
def policyRule : Schema := .record [
  opt "apiGroups" texts, opt "nonResourceURLs" texts, opt "resourceNames" texts,
  opt "resources" texts, req "verbs" texts]

/-- The role that a binding grants. -/
def roleReference : Schema := .record [
  req "apiGroup" .text, req "kind" .text, req "name" .text]

/-- To whom a binding grants a role. -/
def subject : Schema := .record [
  opt "apiGroup" .text, req "kind" .text, req "name" .text, opt "namespace" .text]

/-- The roles that a cluster role gathers. -/
def aggregationRule : Schema := .record [
  opt "clusterRoleSelectors" (.list labelSelector)]

/-- A service account. -/
def serviceAccountBody : Schema := .record [
  opt "automountServiceAccountToken" .boolean, opt "imagePullSecrets" (.list localReference),
  opt "secrets" (.list objectReference)]

/-- A role. -/
def roleBody : Schema := .record [
  opt "rules" (.list policyRule)]

/-- A binding of a role. -/
def bindingBody : Schema := .record [
  req "roleRef" roleReference, opt "subjects" (.list subject)]

/-- A cluster role. -/
def clusterRoleBody : Schema := .record [
  opt "aggregationRule" aggregationRule, opt "rules" (.list policyRule)]

/-- A configuration map. -/
def configMapBody : Schema := .record [
  opt "binaryData" (.table .base64), opt "data" textTable, opt "immutable" .boolean]

/-- How many pods an update may replace at once. -/
def rollingUpdate : Schema := .record [
  opt "maxSurge" .intOrText, opt "maxUnavailable" .intOrText]

/-- How an update replaces pods. -/
def updateStrategy : Schema := .record [
  opt "rollingUpdate" rollingUpdate, opt "type" .text]

/-- A pod on every node. -/
def daemonSetSpec : Schema := .record [
  opt "minReadySeconds" .int32, opt "revisionHistoryLimit" .int32, req "selector" labelSelector,
  req "template" podTemplate, opt "updateStrategy" updateStrategy]

/-- A condition of a daemon set. -/
def daemonSetCondition : Schema := .record [
  opt "lastTransitionTime" .time, opt "message" .text, opt "reason" .text, req "status" .text,
  req "type" .text]

/-- How far a daemon set has come. -/
def daemonSetStatus : Schema := .record [
  opt "collisionCount" .int32, opt "conditions" (.list daemonSetCondition),
  req "currentNumberScheduled" .int32, req "desiredNumberScheduled" .int32,
  opt "numberAvailable" .int32, req "numberMisscheduled" .int32, req "numberReady" .int32,
  opt "numberUnavailable" .int32, opt "observedGeneration" .int64,
  opt "updatedNumberScheduled" .int32]

/-- A daemon set. -/
def daemonSetBody : Schema := .record [
  opt "spec" daemonSetSpec, opt "status" daemonSetStatus]

/-- A number of equal pods. -/
def deploymentSpec : Schema := .record [
  opt "minReadySeconds" .int32, opt "paused" .boolean, opt "progressDeadlineSeconds" .int32,
  opt "replicas" .int32, opt "revisionHistoryLimit" .int32, req "selector" labelSelector,
  opt "strategy" updateStrategy, req "template" podTemplate]

/-- A condition of a deployment. -/
def deploymentCondition : Schema := .record [
  opt "lastTransitionTime" .time, opt "lastUpdateTime" .time, opt "message" .text,
  opt "reason" .text, req "status" .text, req "type" .text]

/-- How far a deployment has come. -/
def deploymentStatus : Schema := .record [
  opt "availableReplicas" .int32, opt "collisionCount" .int32,
  opt "conditions" (.list deploymentCondition), opt "observedGeneration" .int64,
  opt "readyReplicas" .int32, opt "replicas" .int32, opt "unavailableReplicas" .int32,
  opt "updatedReplicas" .int32]

/-- A deployment. -/
def deploymentBody : Schema := .record [
  opt "spec" deploymentSpec, opt "status" deploymentStatus]

/-- A port of a service. -/
def servicePort : Schema := .record [
  opt "appProtocol" .text, opt "name" .text, opt "nodePort" .int32, req "port" .int32,
  opt "protocol" .text, opt "targetPort" .intOrText]

/-- How long a client keeps its pod. -/
def clientIPConfig : Schema := .record [
  opt "timeoutSeconds" .int32]

/-- How clients keep their pods. -/
def sessionAffinityConfig : Schema := .record [
  opt "clientIP" clientIPConfig]

/-- An address for pods. -/
def serviceSpec : Schema := .record [
  opt "allocateLoadBalancerNodePorts" .boolean, opt "clusterIP" .text, opt "clusterIPs" texts,
  opt "externalIPs" texts, opt "externalName" .text, opt "externalTrafficPolicy" .text,
  opt "healthCheckNodePort" .int32, opt "internalTrafficPolicy" .text, opt "ipFamilies" texts,
  opt "ipFamilyPolicy" .text, opt "loadBalancerClass" .text, opt "loadBalancerIP" .text,
  opt "loadBalancerSourceRanges" texts, opt "ports" (.list servicePort),
  opt "publishNotReadyAddresses" .boolean, opt "selector" textTable, opt "sessionAffinity" .text,
  opt "sessionAffinityConfig" sessionAffinityConfig, opt "trafficDistribution" .text,
  opt "type" .text]

/-- A condition of an object. -/
def standardCondition : Schema := .record [
  req "lastTransitionTime" .time, req "message" .text, opt "observedGeneration" .int64,
  req "reason" .text, req "status" .text, req "type" .text]

/-- The state of a port. -/
def portStatus : Schema := .record [
  opt "error" .text, req "port" .int32, req "protocol" .text]

/-- A way in. -/
def loadBalancerIngress : Schema := .record [
  opt "hostname" .text, opt "ip" .text, opt "ipMode" .text, opt "ports" (.list portStatus)]

/-- The ways in. -/
def loadBalancerStatus : Schema := .record [
  opt "ingress" (.list loadBalancerIngress)]

/-- The state of a service. -/
def serviceStatus : Schema := .record [
  opt "conditions" (.list standardCondition), opt "loadBalancer" loadBalancerStatus]

/-- A service. -/
def serviceBody : Schema := .record [
  opt "spec" serviceSpec, opt "status" serviceStatus]

/-- Exit codes that a rule matches. -/
def failureExitCodes : Schema := .record [
  opt "containerName" .text, req "operator" .text, req "values" (.list .int32)]

/-- A pod condition that a rule matches. -/
def failurePodCondition : Schema := .record [
  req "status" .text, req "type" .text]

/-- What a failed pod means for its job. -/
def failurePolicyRule : Schema := .record [
  req "action" .text, opt "onExitCodes" failureExitCodes,
  opt "onPodConditions" (.list failurePodCondition)]

/-- What failed pods mean for their job. -/
def failurePolicy : Schema := .record [
  req "rules" (.list failurePolicyRule)]

/-- When a job has succeeded early. -/
def successPolicyRule : Schema := .record [
  opt "succeededCount" .int32, opt "succeededIndexes" .text]

/-- When a job has succeeded. -/
def successPolicy : Schema := .record [
  req "rules" (.list successPolicyRule)]

/-- Pods that run to their end. -/
def jobSpec : Schema := .record [
  opt "activeDeadlineSeconds" .int64, opt "backoffLimit" .int32,
  opt "backoffLimitPerIndex" .int32, opt "completionMode" .text, opt "completions" .int32,
  opt "managedBy" .text, opt "manualSelector" .boolean, opt "maxFailedIndexes" .int32,
  opt "parallelism" .int32, opt "podFailurePolicy" failurePolicy,
  opt "podReplacementPolicy" .text, opt "selector" labelSelector,
  opt "successPolicy" successPolicy, opt "suspend" .boolean, req "template" podTemplate,
  opt "ttlSecondsAfterFinished" .int32]

/-- A condition of a job. -/
def jobCondition : Schema := .record [
  opt "lastProbeTime" .time, opt "lastTransitionTime" .time, opt "message" .text,
  opt "reason" .text, req "status" .text, req "type" .text]

/-- Finished pods not counted yet. -/
def uncountedPods : Schema := .record [
  opt "failed" texts, opt "succeeded" texts]

/-- How far a job has come. -/
def jobStatus : Schema := .record [
  opt "active" .int32, opt "completedIndexes" .text, opt "completionTime" .time,
  opt "conditions" (.list jobCondition), opt "failed" .int32, opt "failedIndexes" .text,
  opt "ready" .int32, opt "startTime" .time, opt "succeeded" .int32, opt "terminating" .int32,
  opt "uncountedTerminatedPods" uncountedPods]

/-- A job. -/
def jobBody : Schema := .record [
  opt "spec" jobSpec, opt "status" jobStatus]

/-- The sender of an event. -/
def eventSource : Schema := .record [
  opt "component" .text, opt "host" .text]

/-- A run of equal events. -/
def eventSeries : Schema := .record [
  req "count" .int32, req "lastObservedTime" .microTime]

/-- An event. -/
def eventBody : Schema := .record [
  opt "action" .text, opt "deprecatedCount" .int32, opt "deprecatedFirstTimestamp" .time,
  opt "deprecatedLastTimestamp" .time, opt "deprecatedSource" eventSource,
  opt "eventTime" .microTime, opt "note" .text, opt "reason" .text,
  opt "regarding" objectReference, opt "related" objectReference,
  opt "reportingController" .text, opt "reportingInstance" .text, opt "series" eventSeries,
  opt "type" .text]

/-- What pods are allowed to do on a cluster with security context constraints. -/
def securityContextConstraintsBody : Schema := .record [
  dflt "allowHostDirVolumePlugin" .boolean, dflt "allowHostIPC" .boolean,
  dflt "allowHostNetwork" .boolean, dflt "allowHostPID" .boolean, dflt "allowHostPorts" .boolean,
  opt "allowPrivilegeEscalation" .boolean, dflt "allowPrivilegedContainer" .boolean,
  opt "allowedCapabilities" texts, opt "defaultAddCapabilities" texts, opt "fsGroup" .anything,
  dflt "groups" texts, opt "priority" .int32, dflt "readOnlyRootFilesystem" .boolean,
  opt "requiredDropCapabilities" texts, opt "runAsUser" .anything,
  opt "seLinuxContext" .anything, opt "supplementalGroups" .anything, dflt "users" texts,
  dflt "volumes" texts]

end NodeFeatureOperator.Schema
