import TileScript.Engine.World

/-!
Running commands, and values of the configuration that are asked of scripts. A script gets what it
should know in a table that is made for it alone.
-/

namespace TileScript

open Bridge

namespace CommandEnv

/-- A new table that tells a script where it runs; what is not known is left out. -/
def toTable (env : CommandEnv) : Act Handle := do
  let table ← Table.create
  Table.setFields table
    [
      ("windowID", .ofOption (fun id => .ofInt id) env.windowId),
      ("workspaceName", .ofOption .string env.workspace),
      ("pwd", .ofOption .string env.directory)
    ]
  return table

end CommandEnv

namespace Monitor

/-- A new table that tells a script about a monitor. -/
def toTable (monitor : Monitor) : Act Handle := do
  let table ← Table.create
  Table.setFields table
    [
      ("id", .ofInt monitor.id),
      ("name", .string monitor.name),
      ("width", .number monitor.rect.width),
      ("height", .number monitor.rect.height),
      ("activeWorkspace", .string monitor.activeWorkspace)
    ]
  return table

end Monitor

namespace Command

/-- Calls a function with a table that tells where it runs. A raised error is no success. -/
def runScript (function : Handle) (env : CommandEnv) : Act Bool := do
  let table ← env.toTable
  return !(← Function.call function [.table table]).isFailed

/-- Runs a command; whether it succeeded. -/
def run (command : Command) (env : CommandEnv) : Live Bool := do
  match command with
  | .host command =>
    let output := (← Live.world).manager.host.output command
    modify fun world => { world with manager := world.manager.execute command env }
    return output.exitCode == 0
  | .script function => Live.within function.context (runScript function env)

/-- Runs commands in order, whatever becomes of each. -/
def runAll (env : CommandEnv) : List Command → Live Unit
  | [] => return
  | command :: rest => do
    let _ ← Live.observe (command.run env)
    runAll env rest

end Command

namespace Dynamic

variable {α : Type} [Castable α]

def ask (function : Handle) (id : Value) (asked : Monitor) : Act α := do
  let info ← asked.toTable
  match ← Function.call function [id, .table info] with
  | .none => throw (.config "Lua callback did not return a value")
  | .failed message =>
    throw (.config ("Failed to call the Lua callback for dynamic config value: " ++ message))
  | result =>
    match result.first?.bind Castable.cast? with
    | some value => return value
    | none =>
      throw (.config
        "Could not cast the return value of Lua callback to dynamic config value")

def evaluate (value : Dynamic α) (asked : Monitor) (monitors : List Monitor) : Live α :=
  match value with
  | .constant value => return value
  | .perMonitor rules fallback => return perMonitorValue rules fallback asked monitors
  | .callback function id => Live.within function.context (ask function id asked)

end Dynamic
end TileScript
