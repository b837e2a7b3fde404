import NodeFeatureOperator.Schema.Basic

/-!
# Metadata and references

The types of the metadata that every object carries, and of references between objects.
-/

namespace NodeFeatureOperator.Schema

/-- One condition of a label selector. -/
def labelSelectorRequirement : Schema := .record [
  req "key" .text, req "operator" .text, opt "values" texts]

/-- A choice of objects by their labels. -/
def labelSelector : Schema := .record [
  opt "matchExpressions" (.list labelSelectorRequirement), opt "matchLabels" textTable]

/-- The fields that one writer manages. -/
def managedFieldsEntry : Schema := .record [
  opt "apiVersion" .text, opt "fieldsType" .text, opt "fieldsV1" .anything, opt "manager" .text,
  opt "operation" .text, opt "subresource" .text, opt "time" .time]

/-- A reference to an owner. -/
def ownerReference : Schema := .record [
  req "apiVersion" .text, opt "blockOwnerDeletion" .boolean, opt "controller" .boolean,
  req "kind" .text, req "name" .text, req "uid" .text]

/-- The metadata of an object. -/
def objectMeta : Schema := .record [
  opt "annotations" textTable, opt "creationTimestamp" .time,
  opt "deletionGracePeriodSeconds" .int64, opt "deletionTimestamp" .time, opt "finalizers" texts,
  opt "generateName" .text, opt "generation" .int64, opt "labels" textTable,
  opt "managedFields" (.list managedFieldsEntry), opt "name" .text, opt "namespace" .text,
  opt "ownerReferences" (.list ownerReference), opt "resourceVersion" .text,
  opt "selfLink" .text, opt "uid" .text]

/-- The metadata of a list. -/
def listMeta : Schema := .record [
  opt "continue" .text, opt "remainingItemCount" .int64, opt "resourceVersion" .text,
  opt "selfLink" .text]

/-- A reference to an object of the same namespace. -/
def localReference : Schema := .record [
  req "name" .text]

/-- A reference to any object. -/
def objectReference : Schema := .record [
  opt "apiVersion" .text, opt "fieldPath" .text, opt "kind" .text, opt "name" .text,
  opt "namespace" .text, opt "resourceVersion" .text, opt "uid" .text]

end NodeFeatureOperator.Schema
