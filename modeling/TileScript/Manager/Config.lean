import TileScript.Manager.Gap
import TileScript.Manager.Layout
import TileScript.Manager.Mode
import TileScript.Manager.Window

/-!
What scripts configure.
-/

namespace TileScript

structure Config where
  gaps : Gaps
  startAtLogin : Bool
  flattenContainers : Bool
  oppositeOrientation : Bool
  accordionPadding : Int
  rootLayout : Layout
  rootOrientation : Orientation
  onFocusChanged : List Command
  onMonitorChanged : List Command
  onWindowDetected : List WindowRule
  modes : Modes
  activeMode : String
  deriving Repr, Inhabited

namespace Config

/-- The mode that is active at first. -/
def mainMode : String := "main"

/-- The configuration before any script. -/
def initial : Config where
  gaps := .zero
  startAtLogin := false
  flattenContainers := true
  oppositeOrientation := true
  accordionPadding := 30
  rootLayout := .tiles
  rootOrientation := .auto
  onFocusChanged := []
  onMonitorChanged := []
  onWindowDetected := []
  modes := [(mainMode, .empty mainMode)]
  activeMode := mainMode

/-- The bindings that should be in force. -/
def activeBindings (config : Config) : Mode := config.modes.get config.activeMode

/-- Binds a chord in a mode, which is made if it is missing. -/
def bind (config : Config) (mode : String) (binding : Binding) : Config :=
  { config with modes := config.modes.insert mode ((config.modes.get mode).bind binding) }

def windowCommands (config : Config) (window : DetectedWindow) (startup : Bool) : List Command :=
  WindowRule.select window startup config.onWindowDetected

def same (a b : Config) : Bool :=
  a.gaps.same b.gaps && a.startAtLogin == b.startAtLogin &&
    a.flattenContainers == b.flattenContainers &&
    a.oppositeOrientation == b.oppositeOrientation &&
    a.accordionPadding == b.accordionPadding && a.rootLayout == b.rootLayout &&
    a.rootOrientation == b.rootOrientation &&
    sameList Command.same a.onFocusChanged b.onFocusChanged &&
    sameList Command.same a.onMonitorChanged b.onMonitorChanged &&
    sameList WindowRule.same a.onWindowDetected b.onWindowDetected &&
    a.modes.same b.modes && a.activeMode == b.activeMode

def commands (config : Config) : List Command :=
  config.onFocusChanged ++ config.onMonitorChanged ++
    config.onWindowDetected.flatMap (·.commands) ++
    config.modes.flatMap fun (_, mode) => mode.bindings.flatMap (·.commands)

def handles (config : Config) : List Bridge.Handle :=
  config.gaps.handles ++ config.commands.flatMap Command.handles

/-! ### Summary -/

def gapText : Dynamic Int → String
  | .constant value => toString value
  | .perMonitor rules fallback =>
    "per-monitor (" ++ toString rules.length ++ " rules, default " ++ toString fallback ++ ")"
  | .callback _ _ => "<lua function>"

def commandsText (commands : List Command) : String := "; ".intercalate (commands.map Command.text)

def gapLines (gaps : Gaps) : List String :=
  GapPosition.all.map fun position => position.globalName ++ " = " ++ gapText (gaps.get position)

def modeLines (config : Config) (mode : Mode) : List String :=
  let marker := if mode.name = config.activeMode then " (active)" else ""
  ("mode " ++ mode.name ++ marker ++ ": " ++ toString mode.bindings.length ++ " bindings") ::
    mode.bindings.map fun binding =>
      "  " ++ binding.description ++ " -> " ++ commandsText binding.commands

/-- One line for every setting, registered command and mode. -/
def summary (config : Config) : List String :=
  gapLines config.gaps ++
    [
      "start_at_login = " ++ toString config.startAtLogin,
      "enable_normalization_flatten_containers = " ++ toString config.flattenContainers,
      "enable_normalization_opposite_orientation_for_nested_containers = " ++
        toString config.oppositeOrientation,
      "accordion_padding = " ++ toString config.accordionPadding,
      "default_root_container_layout = " ++ config.rootLayout.text,
      "default_root_container_orientation = " ++ config.rootOrientation.text
    ] ++
    config.onFocusChanged.map (fun command => "on_focus_changed: " ++ command.text) ++
    config.onMonitorChanged.map (fun command => "on_focused_monitor_changed: " ++ command.text) ++
    config.onWindowDetected.map
      (fun rule => "on_window_detected: " ++ commandsText rule.commands) ++
    config.modes.flatMap fun (_, mode) => modeLines config mode

end Config
end TileScript
