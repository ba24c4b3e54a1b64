import EdgeFleet.Command.Run
/-!
# The program

Runs the command line of the process on an empty database, prints what it answers and exits with
its code.
-/

namespace EdgeFleet

/-- The variables that options may come from. -/
def optionVariables : List String :=
  ["EDGEWARD_DATABASE_URL", "EDGEWARD_TUNNEL_SECRET", "EDGEWARD_KEEP_ALIVE_SECS",
    "EDGEWARD_SWEEP_INTERVAL_SECS", "EDGEWARD_TUNNEL_PORT_RANGE", "EDGEWARD_CREDENTIAL_TTL_SECS",
    "EDGEWARD_API_URL", "EDGEWARD_TUNNEL_ADDR"]

end EdgeFleet

open EdgeFleet in
def main (words : List String) : IO UInt32 := do
  let values ← optionVariables.mapM (fun name => do return (name, ← IO.getEnv name))
  let vars : Command.Variables := fun name => (values.lookup name).join
  let result := Command.run words vars .blank
  IO.print result.output
  match result.complaint with
  | some line => IO.eprintln line
  | none => pure ()
  return result.exitCode.toUInt32
