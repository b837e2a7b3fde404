import NodeFeatureOperator.Schema.Metadata
import NodeFeatureOperator.Schema.Container

/-!
# Volumes

The types of the volumes of a pod and of their sources.
-/

namespace NodeFeatureOperator.Schema

/-- A key and the file it becomes. -/
def keyToPath : Schema := .record [
  req "key" .text, opt "mode" .int32, req "path" .text]

/-- A file that holds a field of the pod. -/
def downwardFile : Schema := .record [
  opt "fieldRef" objectFieldSelector, opt "mode" .int32, req "path" .text,
  opt "resourceFieldRef" resourceFieldSelector]

/-- A reference to an object of some kind in the same namespace. -/
def typedLocalReference : Schema := .record [
  opt "apiGroup" .text, req "kind" .text, req "name" .text]

/-- A reference to an object of some kind. -/
def typedReference : Schema := .record [
  opt "apiGroup" .text, req "kind" .text, req "name" .text, opt "namespace" .text]

/-- The resources of a volume. -/
def volumeResources : Schema := .record [
  opt "limits" textTable, opt "requests" textTable]

/-- A request for a volume. -/
def claimSpec : Schema := .record [
  opt "accessModes" texts, opt "dataSource" typedLocalReference,
  opt "dataSourceRef" typedReference, opt "resources" volumeResources,
  opt "selector" labelSelector, opt "storageClassName" .text,
  opt "volumeAttributesClassName" .text, opt "volumeMode" .text, opt "volumeName" .text]

/-- A template of a request for a volume. -/
def claimTemplate : Schema := .record [
  opt "metadata" objectMeta, req "spec" claimSpec]

/-- Certificates as a file. -/
def clusterTrustBundleProjection : Schema := .record [
  opt "labelSelector" labelSelector, opt "name" .text, opt "optional" .boolean, req "path" .text,
  opt "signerName" .text]

/-- Keys of an object as files. -/
def keysProjection : Schema := .record [
  opt "items" (.list keyToPath), req "name" .text, opt "optional" .boolean]

/-- Fields of the pod as files. -/
def downwardProjection : Schema := .record [
  opt "items" (.list downwardFile)]

/-- A token as a file. -/
def tokenProjection : Schema := .record [
  opt "audience" .text, opt "expirationSeconds" .int64, req "path" .text]

/-- One source of a projected volume. -/
def volumeProjection : Schema := .record [
  opt "clusterTrustBundle" clusterTrustBundleProjection, opt "configMap" keysProjection,
  opt "downwardAPI" downwardProjection, opt "secret" keysProjection,
  opt "serviceAccountToken" tokenProjection]

/-- A block store volume. -/
def awsElasticBlockStoreVolume : Schema := .record [
  opt "fsType" .text, opt "partition" .int32, opt "readOnly" .boolean, req "volumeID" .text]

/-- A disk by address. -/
def azureDiskVolume : Schema := .record [
  opt "cachingMode" .text, req "diskName" .text, req "diskURI" .text, opt "fsType" .text,
  opt "kind" .text, opt "readOnly" .boolean]

/-- A file share. -/
def azureFileVolume : Schema := .record [
  opt "readOnly" .boolean, req "secretName" .text, req "shareName" .text]

/-- A distributed file system. -/
def cephfsVolume : Schema := .record [
  req "monitors" texts, opt "path" .text, opt "readOnly" .boolean, opt "secretFile" .text,
  opt "secretRef" localReference, opt "user" .text]

/-- A block storage volume. -/
def cinderVolume : Schema := .record [
  opt "fsType" .text, opt "readOnly" .boolean, opt "secretRef" localReference,
  req "volumeID" .text]

/-- Keys of a configuration map as files. -/
def configMapVolume : Schema := .record [
  opt "defaultMode" .int32, opt "items" (.list keyToPath), req "name" .text,
  opt "optional" .boolean]

/-- A volume of a storage driver. -/
def csiVolume : Schema := .record [
  req "driver" .text, opt "fsType" .text, opt "nodePublishSecretRef" localReference,
  opt "readOnly" .boolean, opt "volumeAttributes" textTable]

/-- Fields of the pod as files. -/
def downwardVolume : Schema := .record [
  opt "defaultMode" .int32, opt "items" (.list downwardFile)]

/-- A directory that starts empty. -/
def emptyDirVolume : Schema := .record [
  opt "medium" .text, opt "sizeLimit" .text]

/-- A volume made for the pod. -/
def ephemeralVolume : Schema := .record [
  opt "volumeClaimTemplate" claimTemplate]

/-- A fibre channel disk. -/
def fcVolume : Schema := .record [
  opt "fsType" .text, opt "lun" .int32, opt "readOnly" .boolean, opt "targetWWNs" texts,
  opt "wwids" texts]

/-- A volume of a plugin. -/
def flexVolume : Schema := .record [
  req "driver" .text, opt "fsType" .text, opt "options" textTable, opt "readOnly" .boolean,
  opt "secretRef" localReference]

/-- A dataset by name. -/
def flockerVolume : Schema := .record [
  opt "datasetName" .text, opt "datasetUUID" .text]

/-- A persistent disk. -/
def gcePersistentDiskVolume : Schema := .record [
  opt "fsType" .text, opt "partition" .int32, req "pdName" .text, opt "readOnly" .boolean]

/-- A checkout. -/
def gitRepoVolume : Schema := .record [
  opt "directory" .text, req "repository" .text, opt "revision" .text]

/-- A distributed volume. -/
def glusterfsVolume : Schema := .record [
  req "endpoints" .text, req "path" .text, opt "readOnly" .boolean]

/-- A path of the node. -/
def hostPathVolume : Schema := .record [
  req "path" .text, opt "type" .text]

/-- The content of an image. -/
def imageVolume : Schema := .record [
  opt "pullPolicy" .text, opt "reference" .text]

/-- A disk by target. -/
def iscsiVolume : Schema := .record [
  opt "chapAuthDiscovery" .boolean, opt "chapAuthSession" .boolean, opt "fsType" .text,
  opt "initiatorName" .text, req "iqn" .text, opt "iscsiInterface" .text, req "lun" .int32,
  opt "portals" texts, opt "readOnly" .boolean, opt "secretRef" localReference,
  req "targetPortal" .text]

/-- A directory of a file server. -/
def nfsVolume : Schema := .record [
  req "path" .text, opt "readOnly" .boolean, req "server" .text]

/-- A volume by its claim. -/
def claimVolume : Schema := .record [
  req "claimName" .text, opt "readOnly" .boolean]

/-- A persistent disk by identifier. -/
def photonPersistentDiskVolume : Schema := .record [
  opt "fsType" .text, req "pdID" .text]

/-- A volume by identifier. -/
def portworxVolume : Schema := .record [
  opt "fsType" .text, opt "readOnly" .boolean, req "volumeID" .text]

/-- Several sources in one directory. -/
def projectedVolume : Schema := .record [
  opt "defaultMode" .int32, opt "sources" (.list volumeProjection)]

/-- A volume by registry. -/
def quobyteVolume : Schema := .record [
  opt "group" .text, opt "readOnly" .boolean, req "registry" .text, opt "tenant" .text,
  opt "user" .text, req "volume" .text]

/-- A block device by image. -/
def rbdVolume : Schema := .record [
  opt "fsType" .text, req "image" .text, opt "keyring" .text, req "monitors" texts,
  opt "pool" .text, opt "readOnly" .boolean, opt "secretRef" localReference, opt "user" .text]

/-- A volume by gateway. -/
def scaleIOVolume : Schema := .record [
  opt "fsType" .text, req "gateway" .text, opt "protectionDomain" .text, opt "readOnly" .boolean,
  req "secretRef" localReference, opt "sslEnabled" .boolean, opt "storageMode" .text,
  opt "storagePool" .text, req "system" .text, opt "volumeName" .text]

/-- Keys of a secret as files. -/
def secretVolume : Schema := .record [
  opt "defaultMode" .int32, opt "items" (.list keyToPath), opt "optional" .boolean,
  opt "secretName" .text]

/-- A volume by name. -/
def storageosVolume : Schema := .record [
  opt "fsType" .text, opt "readOnly" .boolean, opt "secretRef" localReference,
  opt "volumeName" .text, opt "volumeNamespace" .text]

/-- A disk by path. -/
def vsphereVolume : Schema := .record [
  opt "fsType" .text, opt "storagePolicyID" .text, opt "storagePolicyName" .text,
  req "volumePath" .text]

/-- A volume of a pod. -/
def volume : Schema := .record [
  opt "awsElasticBlockStore" awsElasticBlockStoreVolume, opt "azureDisk" azureDiskVolume,
  opt "azureFile" azureFileVolume, opt "cephfs" cephfsVolume, opt "cinder" cinderVolume,
  opt "configMap" configMapVolume, opt "csi" csiVolume, opt "downwardAPI" downwardVolume,
  opt "emptyDir" emptyDirVolume, opt "ephemeral" ephemeralVolume, opt "fc" fcVolume,
  opt "flexVolume" flexVolume, opt "flocker" flockerVolume,
  opt "gcePersistentDisk" gcePersistentDiskVolume, opt "gitRepo" gitRepoVolume,
  opt "glusterfs" glusterfsVolume, opt "hostPath" hostPathVolume, opt "image" imageVolume,
  opt "iscsi" iscsiVolume, req "name" .text, opt "nfs" nfsVolume,
  opt "persistentVolumeClaim" claimVolume, opt "photonPersistentDisk" photonPersistentDiskVolume,
  opt "portworxVolume" portworxVolume, opt "projected" projectedVolume,
  opt "quobyte" quobyteVolume, opt "rbd" rbdVolume, opt "scaleIO" scaleIOVolume,
  opt "secret" secretVolume, opt "storageos" storageosVolume, opt "vsphereVolume" vsphereVolume]

end NodeFeatureOperator.Schema
