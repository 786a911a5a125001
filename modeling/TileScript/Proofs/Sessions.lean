import TileScript.Engine.Basic
import TileScript.Proofs.Worlds

/-! The states that an engine can get into: one step for each thing that is done with it, however that
ends, and whole histories of such steps. -/

namespace TileScript
open Bridge

/-- An engine and the world it works in. -/
structure Session where
  engine : Engine
  world : World

namespace Session

/-- Something is done with an engine. What comes of it is of no account, only that it ends. -/
inductive Step : Session → Session → Prop where
  | source {engine world after result} (runtime : Runtime) (text : String)
    (ran : (engine.runSource text).exec runtime world = some (result, after)) : Step ⟨engine, world⟩ ⟨engine, after⟩
  | initFile {engine world after result} (runtime : Runtime) (file : ScriptFile)
    (ran : (engine.runInitFile file).exec runtime world = some (result, after)) : Step ⟨engine, world⟩ ⟨engine, after⟩
  | focus {engine world after result} (runtime : Runtime) (env : CommandEnv)
    (ran : (Engine.focusChanged env).exec runtime world = some (result, after)) : Step ⟨engine, world⟩ ⟨engine, after⟩
  | monitorFocus {engine world after result} (runtime : Runtime) (env : CommandEnv)
    (ran : (Engine.monitorChanged env).exec runtime world = some (result, after)) : Step ⟨engine, world⟩ ⟨engine, after⟩
  | window {engine world after result} (runtime : Runtime) (window : DetectedWindow) (startup : Bool)
    (ran : (Engine.windowDetected window startup).exec runtime world = some (result, after)) :
    Step ⟨engine, world⟩ ⟨engine, after⟩
  | gap {engine world after result} (runtime : Runtime) (position : GapPosition) (asked : Monitor)
    (monitors : List Monitor) (ran : (Engine.gap position asked monitors).exec runtime world = some (result, after)) :
    Step ⟨engine, world⟩ ⟨engine, after⟩
  /-- The host has dropped all its pins but the held ones. -/
  | collect {engine world} (held : List Pin) : Step ⟨engine, world⟩ ⟨engine, world.collect held⟩
  | reload {engine world renewed after result} (runtime : Runtime) (file : ScriptFile)
    (ran : (engine.reload file).exec runtime world = some (.ok (renewed, result), after)) :
    Step ⟨engine, world⟩ ⟨renewed, after⟩
  /-- Not even a new context could be made ready. -/
  | brokenReload {engine world after error} (runtime : Runtime) (file : ScriptFile)
    (ran : (engine.reload file).exec runtime world = some (.error error, after)) : Step ⟨engine, world⟩ ⟨engine, after⟩

/-- What a new engine can come to in a world that scripts have not changed yet. -/
inductive Reachable : Session → Prop where
  | create {host initPath engine world} (runtime : Runtime) (untouched : host.applied = [])
    (made : (Engine.create initPath).exec runtime (.initial host) = some (.ok engine, world)) : Reachable ⟨engine, world⟩
  | step {session next} (reached : Reachable session) (step : Step session next) : Reachable next

end Session
end TileScript
