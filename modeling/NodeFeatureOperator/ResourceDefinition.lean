import NodeFeatureOperator.Instance
import NodeFeatureOperator.Yaml.Printer

/-!
# The definition of the instance resource

The document that makes the API server know instances: their names, the columns in which they are
listed, and the schema of their documents.
-/

namespace NodeFeatureOperator.ResourceDefinition

/-! ## Schemas -/

/-- A value that may be null. -/
def nullable : String × Json := ("nullable", .bool true)

/-- The value that an absent one stands for. -/
def orElse (v : Json) : String × Json := ("default", v)

/-- The schema of a type, with a description and what else there is to say. -/
def described (type description : String) (more : List (String × Json)) : Json :=
  .ofFields (("type", .str type) :: ("description", .str description) :: more)

/-- The schema of a text. -/
def text (description : String) (more : List (String × Json)) : Json :=
  described "string" description more

/-- The schema of a text that is one of some words. -/
def word (description : String) (words : List String) : Json :=
  text description [("enum", .ofStrings words)]

/-- The schema of a truth value, false when absent. -/
def switch (description : String) : Json :=
  described "boolean" description [orElse (.bool false)]

/-- The schema of an optional integer with this many bits. -/
def integer (bits : Nat) (description : String) : Json :=
  described "integer" description [("format", .str ("int" ++ toString bits)), nullable]

/-- The schema of an optional list of texts. -/
def texts (description : String) : Json :=
  described "array" description [("items", .obj [("type", .str "string")]), nullable]

/-- The schema of a table with known names. -/
def table (description : String) (properties : List (String × Json)) (more : List (String × Json)) :
    Json :=
  described "object" description (("properties", .ofFields properties) :: more)

/-- The schema of a configuration file. -/
def configFile (description : String) (more : List (String × Json)) : Json :=
  table description
    [("configData", text "Content of the configuration file" [orElse (.str "")])] more

/-- The schema of a condition. -/
def condition : Json :=
  table "InstanceCondition describes one aspect of the instance health" [
    ("lastTransitionTime",
      text "LastTransitionTime is the time the condition last changed"
        [("format", .str "date-time"), nullable]),
    ("message", text "Human readable details" [nullable]),
    ("reason", text "Machine readable reason of the last transition" [nullable]),
    ("status", word "Status (\"True\" or \"False\")" ["True", "False"]),
    ("type", word "Type of the condition" (ConditionType.all.map (·.toText)))]
    [("required", .ofStrings ["status", "type"])]

/-- The schema of a spec. -/
def spec : Json :=
  table "Describe a node-feature-discovery deployment" [
    ("customConfig",
      configFile "Extra configuration shipped alongside the worker configuration" [nullable]),
    ("extraLabelNs", texts "Extra label namespaces nfd-master is allowed to publish"),
    ("instance",
      text "Instance name, allows several nfd deployments on the same cluster" [nullable]),
    ("labelWhiteList",
      text "Regular expression filtering the published label names" [nullable]),
    ("operand",
      table "Operand container settings" [
        ("image",
          text "Image of the operand, defaults to the operator configured image" [nullable]),
        ("imagePullPolicy",
          text "Pull policy of the operand image. Default to \"Always\"" [nullable]),
        ("servicePort",
          integer 32 "Port the nfd-master service listens on. Default to 12000")]
        [orElse (.obj [("image", .null), ("imagePullPolicy", .null), ("servicePort", .null)])]),
    ("prunerOnDelete",
      switch "Run the prune job to clean node labels when the instance is deleted"),
    ("resourceLabels", texts "Feature names published as extended resources"),
    ("topologyUpdater", switch "Deploy the topology updater daemon"),
    ("workerConfig",
      configFile "nfd-worker configuration file" [orElse (InstanceSpec.configJson "")])]
    []

/-- The schema of a status. -/
def status : Json :=
  table "The status object of \x60NodeFeatureDiscovery\x60" [
    ("conditions",
      described "array" "Available, Upgradeable, Progressing and Degraded conditions"
        [("items", condition), orElse (.arr [])]),
    ("observedGeneration", integer 64 "Generation the conditions were computed for")]
    [nullable]

/-- The schema of an instance. -/
def schema : Json :=
  table "Custom resource representing a node-feature-discovery deployment"
    [("spec", spec), ("status", status)]
    [("required", .ofStrings ["spec"]), ("title", .str Instance.kindText)]

/-! ## The definition -/

/-- A column of a listing: where its value stands in the document. -/
def column (name type description path : String) : Json :=
  .obj [("description", .str description), ("jsonPath", .str path), ("name", .str name),
    ("type", .str type)]

/-- The columns of a listing. -/
def columns : List Json := [
  column "topology" "boolean" "Topology updater enabled" ".spec.topologyUpdater",
  column "available" "string" "Available" ".status.conditions[?(@.type == 'Available')].status",
  column "degraded" "string" "Degraded" ".status.conditions[?(@.type == 'Degraded')].status",
  column "message" "string" "Errors" ".status.conditions[?(@.status == 'True')].message"]

/-- The one version of the resource. -/
def version : Json :=
  .obj [
    ("additionalPrinterColumns", .arr columns),
    ("name", .str Instance.version),
    ("schema", .obj [("openAPIV3Schema", schema)]),
    ("served", .bool true),
    ("storage", .bool true),
    ("subresources", .obj [("status", .obj [])])]

/-- The definition. -/
def document : Json :=
  .obj [
    ("apiVersion", .str "apiextensions.k8s.io/v1"),
    ("kind", .str "CustomResourceDefinition"),
    ("metadata", .obj [("name", .str (Instance.plural ++ "." ++ Instance.group))]),
    ("spec", .obj [
      ("group", .str Instance.group),
      ("names", .obj [
        ("categories", .arr []),
        ("kind", .str Instance.kindText),
        ("plural", .str Instance.plural),
        ("shortNames", .ofStrings ["nfd"]),
        ("singular", .str Instance.kindText.toLower)]),
      ("scope", .str "Namespaced"),
      ("versions", .arr [version])])]

/-- The text of the definition, as a YAML document of its own. -/
def toText : String := "---\n" ++ Yaml.print document

end NodeFeatureOperator.ResourceDefinition
