import NodeFeatureOperator.Schema.Basic

/-!
# Containers

The types of the containers of a pod and of their parts.
-/

namespace NodeFeatureOperator.Schema

/-- A key of a configuration map. -/
def configMapKeySelector : Schema := .record [
  req "key" .text, req "name" .text, opt "optional" .boolean]

/-- A key of a secret. -/
def secretKeySelector : Schema := .record [
  req "key" .text, req "name" .text, opt "optional" .boolean]

/-- A field of the pod. -/
def objectFieldSelector : Schema := .record [
  opt "apiVersion" .text, req "fieldPath" .text]

/-- A resource of a container. -/
def resourceFieldSelector : Schema := .record [
  opt "containerName" .text, opt "divisor" .text, req "resource" .text]

/-- A source of the value of an environment variable. -/
def envVarSource : Schema := .record [
  opt "configMapKeyRef" configMapKeySelector, opt "fieldRef" objectFieldSelector,
  opt "resourceFieldRef" resourceFieldSelector, opt "secretKeyRef" secretKeySelector]

/-- An environment variable. -/
def envVar : Schema := .record [
  req "name" .text, opt "value" .text, opt "valueFrom" envVarSource]

/-- An object whose keys become environment variables. -/
def envSource : Schema := .record [
  req "name" .text, opt "optional" .boolean]

/-- A source of environment variables. -/
def envFromSource : Schema := .record [
  opt "configMapRef" envSource, opt "prefix" .text, opt "secretRef" envSource]

/-- A command to run. -/
def execAction : Schema := .record [
  opt "command" texts]

/-- A header of a request. -/
def httpHeader : Schema := .record [
  req "name" .text, req "value" .text]

/-- A request to make. -/
def httpGetAction : Schema := .record [
  opt "host" .text, opt "httpHeaders" (.list httpHeader), opt "path" .text,
  req "port" .intOrText, opt "scheme" .text]

/-- A time to wait. -/
def sleepAction : Schema := .record [
  req "seconds" .int64]

/-- A port to open. -/
def tcpSocketAction : Schema := .record [
  opt "host" .text, req "port" .intOrText]

/-- A health service to call. -/
def grpcAction : Schema := .record [
  req "port" .int32, opt "service" .text]

/-- What to do at a point of the life of a container. -/
def lifecycleHandler : Schema := .record [
  opt "exec" execAction, opt "httpGet" httpGetAction, opt "sleep" sleepAction,
  opt "tcpSocket" tcpSocketAction]

/-- What to do after the start and before the stop of a container. -/
def lifecycle : Schema := .record [
  opt "postStart" lifecycleHandler, opt "preStop" lifecycleHandler]

/-- A check of a container. -/
def probe : Schema := .record [
  opt "exec" execAction, opt "failureThreshold" .int32, opt "grpc" grpcAction,
  opt "httpGet" httpGetAction, opt "initialDelaySeconds" .int32, opt "periodSeconds" .int32,
  opt "successThreshold" .int32, opt "tcpSocket" tcpSocketAction,
  opt "terminationGracePeriodSeconds" .int64, opt "timeoutSeconds" .int32]

/-- A port of a container. -/
def containerPort : Schema := .record [
  req "containerPort" .int32, opt "hostIP" .text, opt "hostPort" .int32, opt "name" .text,
  opt "protocol" .text]

/-- What resizing a resource does to a container. -/
def resizePolicy : Schema := .record [
  req "resourceName" .text, req "restartPolicy" .text]

/-- A claim that a container uses. -/
def resourceClaim : Schema := .record [
  req "name" .text, opt "request" .text]

/-- The resources of a container. -/
def resourceRequirements : Schema := .record [
  opt "claims" (.list resourceClaim), opt "limits" textTable, opt "requests" textTable]

/-- A profile of allowed operations. -/
def appArmorProfile : Schema := .record [
  opt "localhostProfile" .text, req "type" .text]

/-- A profile of allowed system calls. -/
def seccompProfile : Schema := .record [
  opt "localhostProfile" .text, req "type" .text]

/-- The security label of a process. -/
def seLinuxOptions : Schema := .record [
  opt "level" .text, opt "role" .text, opt "type" .text, opt "user" .text]

/-- The security settings of a Windows process. -/
def windowsOptions : Schema := .record [
  opt "gmsaCredentialSpec" .text, opt "gmsaCredentialSpecName" .text, opt "hostProcess" .boolean,
  opt "runAsUserName" .text]

/-- The capabilities added and dropped. -/
def capabilities : Schema := .record [
  opt "add" texts, opt "drop" texts]

/-- The security settings of a container. -/
def securityContext : Schema := .record [
  opt "allowPrivilegeEscalation" .boolean, opt "appArmorProfile" appArmorProfile,
  opt "capabilities" capabilities, opt "privileged" .boolean, opt "procMount" .text,
  opt "readOnlyRootFilesystem" .boolean, opt "runAsGroup" .int64, opt "runAsNonRoot" .boolean,
  opt "runAsUser" .int64, opt "seLinuxOptions" seLinuxOptions,
  opt "seccompProfile" seccompProfile, opt "windowsOptions" windowsOptions]

/-- A volume used as a device. -/
def volumeDevice : Schema := .record [
  req "devicePath" .text, req "name" .text]

/-- A place where a volume is mounted. -/
def volumeMount : Schema := .record [
  req "mountPath" .text, opt "mountPropagation" .text, req "name" .text, opt "readOnly" .boolean,
  opt "recursiveReadOnly" .text, opt "subPath" .text, opt "subPathExpr" .text]

/-- A container of a pod. -/
def container : Schema := .record [
  opt "args" texts, opt "command" texts, opt "env" (.list envVar),
  opt "envFrom" (.list envFromSource), opt "image" .text, opt "imagePullPolicy" .text,
  opt "lifecycle" lifecycle, opt "livenessProbe" probe, req "name" .text,
  opt "ports" (.list containerPort), opt "readinessProbe" probe,
  opt "resizePolicy" (.list resizePolicy), opt "resources" resourceRequirements,
  opt "restartPolicy" .text, opt "securityContext" securityContext, opt "startupProbe" probe,
  opt "stdin" .boolean, opt "stdinOnce" .boolean, opt "terminationMessagePath" .text,
  opt "terminationMessagePolicy" .text, opt "tty" .boolean,
  opt "volumeDevices" (.list volumeDevice), opt "volumeMounts" (.list volumeMount),
  opt "workingDir" .text]

/-- A container added to a running pod. -/
def ephemeralContainer : Schema := .record [
  opt "args" texts, opt "command" texts, opt "env" (.list envVar),
  opt "envFrom" (.list envFromSource), opt "image" .text, opt "imagePullPolicy" .text,
  opt "lifecycle" lifecycle, opt "livenessProbe" probe, req "name" .text,
  opt "ports" (.list containerPort), opt "readinessProbe" probe,
  opt "resizePolicy" (.list resizePolicy), opt "resources" resourceRequirements,
  opt "restartPolicy" .text, opt "securityContext" securityContext, opt "startupProbe" probe,
  opt "stdin" .boolean, opt "stdinOnce" .boolean, opt "targetContainerName" .text,
  opt "terminationMessagePath" .text, opt "terminationMessagePolicy" .text, opt "tty" .boolean,
  opt "volumeDevices" (.list volumeDevice), opt "volumeMounts" (.list volumeMount),
  opt "workingDir" .text]

end NodeFeatureOperator.Schema
