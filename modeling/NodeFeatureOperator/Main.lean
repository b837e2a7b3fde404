import NodeFeatureOperator.CommandLine

/-!
# The program

Without arguments the program checks the settings of its environment. With the argument "crdgen" it
prints the definition of the instance resource.
-/

open NodeFeatureOperator

/-- Runs the program. -/
def main (args : List String) : IO UInt32 := do
  let rows ← Settings.variableNames.filterMapM fun name => do
    return (← IO.getEnv name).map fun text => (name, text)
  let command : CommandLine.Command := if args = ["crdgen"] then .define else .check
  let outcome := command.run (rows.lookup ·)
  IO.print outcome.output
  IO.eprint outcome.errors
  return UInt32.ofNat outcome.code
