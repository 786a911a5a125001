import TileScript.Manager.Config
import TileScript.Manager.Host

/-!
The state that scripts configure and the changes they can make to it. A change of the bindings in
force is handed to the host at once.
-/

namespace TileScript

/-- The configuration, and the window manager that it is for. -/
structure Manager where
  config : Config
  host : Host
  deriving Repr, Inhabited

/-- A scalar setting with its new value. -/
inductive Setting where
  | startAtLogin (value : Bool)
  | flattenContainers (value : Bool)
  | oppositeOrientation (value : Bool)
  | accordionPadding (value : Int)
  | rootLayout (value : Layout)
  | rootOrientation (value : Orientation)
  deriving DecidableEq, Repr, Inhabited

def Setting.apply (config : Config) : Setting → Config
  | .startAtLogin value => { config with startAtLogin := value }
  | .flattenContainers value => { config with flattenContainers := value }
  | .oppositeOrientation value => { config with oppositeOrientation := value }
  | .accordionPadding value => { config with accordionPadding := value }
  | .rootLayout value => { config with rootLayout := value }
  | .rootOrientation value => { config with rootOrientation := value }

/-- What a script can change. -/
inductive Change where
  | gap (position : GapPosition) (value : Dynamic Int)
  | setting (setting : Setting)
  | onFocusChanged (commands : List Command)
  | onMonitorChanged (commands : List Command)
  | onWindowDetected (rule : WindowRule)
  | bind (mode : String) (binding : Binding)
  | unbind (mode description : String)
  | activate (mode : String)
  deriving Repr, Inhabited

namespace Manager

/-- The manager before any script. -/
def initial (host : Host) : Manager := ⟨.initial, host⟩

/-- Puts a command that was run into the record of the host. -/
def execute (manager : Manager) (command : HostCommand) (env : CommandEnv) : Manager :=
  { manager with host := manager.host.record command env }

/-- Hands the bindings of a mode to the host if it is the active one. -/
def refresh (manager : Manager) (mode : String) : Manager :=
  if manager.config.activeMode = mode then
    { manager with host := manager.host.apply (manager.config.modes.get mode) }
  else manager

/-- Makes a mode the active one and hands its bindings to the host. -/
def activate (manager : Manager) (mode : String) : Manager :=
  { config := { manager.config with activeMode := mode },
    host := manager.host.apply (manager.config.modes.get mode) }

/-- Removes a binding; without an effect if there is none with this description. -/
def unbind (manager : Manager) (mode description : String) : Manager :=
  match manager.config.modes.find? mode with
  | none => manager
  | some found =>
    if (found.described? description).isNone then manager
    else
      let modes := manager.config.modes.insert mode (found.unbind description)
      { manager with config := { manager.config with modes := modes } }.refresh mode

def change (manager : Manager) : Change → Manager
  | .gap position value =>
    let config := manager.config
    { manager with config := { config with gaps := config.gaps.set position value } }
  | .setting setting => { manager with config := setting.apply manager.config }
  | .onFocusChanged commands =>
    let config := manager.config
    { manager with config := { config with onFocusChanged := config.onFocusChanged ++ commands } }
  | .onMonitorChanged commands =>
    let config := manager.config
    { manager with
      config := { config with onMonitorChanged := config.onMonitorChanged ++ commands } }
  | .onWindowDetected rule =>
    let config := manager.config
    { manager with config := { config with onWindowDetected := config.onWindowDetected ++ [rule] } }
  | .bind mode binding =>
    { manager with config := manager.config.bind mode binding }.refresh mode
  | .unbind mode description => manager.unbind mode description
  | .activate mode => manager.activate mode

end Manager
end TileScript
