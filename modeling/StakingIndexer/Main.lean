import StakingIndexer.Document.Configuration

/-!
# The command line

Arguments and environment are read as a configuration, which is checked and shown.
-/

namespace StakingIndexer

/-- One line for each option. -/
def usage : String :=
  "\n".intercalate (ConfigurationOption.all.map fun o => "--" ++ o.name ++ " or " ++ o.environment)

/-- The environment's values of all options. -/
def readEnvironment : IO (String → Option String) := do
  let values ← ConfigurationOption.all.mapM fun o => do
    return (o.environment, ← IO.getEnv o.environment)
  return fun name => (values.find? (·.1 = name)).bind (·.2)

/-- Show the configuration, or say why there is none. The result is the exit code. -/
def showConfiguration (arguments : List String) : IO UInt32 := do
  match Configuration.ofArguments arguments (← readEnvironment) with
  | .error .helpRequested => do
    IO.println usage
    return 0
  | .error e => do
    IO.eprintln e.message
    return 2
  | .ok c => do
    IO.println (Document.configuration c).render
    return match c.check with
      | .ok () => 0
      | .error _ => 1

end StakingIndexer

def main (arguments : List String) : IO UInt32 := StakingIndexer.showConfiguration arguments
