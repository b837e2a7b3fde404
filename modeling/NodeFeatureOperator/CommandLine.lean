import NodeFeatureOperator.ResourceDefinition
import NodeFeatureOperator.Settings
import NodeFeatureOperator.Text.Quoted

/-!
# The command line

What the program prints and with which code it ends. It either prints the definition of the
instance resource or checks the settings of the environment with which the operator would run.
-/

namespace NodeFeatureOperator.CommandLine

/-- What the program can be asked for. -/
inductive Command where
  /-- To print the definition of the instance resource. -/
  | define
  /-- To check the settings of the operator. -/
  | check
deriving DecidableEq, Repr, Inhabited

/-- How the program ends. -/
structure Outcome where
  code : Nat
  output : String
  errors : String
deriving DecidableEq, Repr, Inhabited

/-- The line that an error in the settings leaves. -/
def errorLine (detail : String) : String := "Error: Config(" ++ Text.quote detail ++ ")\n"

/-- How a command ends in an environment. -/
def Command.run (env : String → Option String) : Command → Outcome
  | define => ⟨0, ResourceDefinition.toText, ""⟩
  | check =>
    match Settings.ofEnvironment env with
    | .ok _ => ⟨0, "", ""⟩
    | .error (.configuration detail) => ⟨1, "", errorLine detail⟩
    | .error e => ⟨1, "", "Error: " ++ e.message ++ "\n"⟩

end NodeFeatureOperator.CommandLine
