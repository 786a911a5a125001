import TileScript.Bridge.Schema

/-!
The functions that the window manager offers to scripts: where each is found, and what arguments it
takes.
-/

namespace TileScript.Bridge

/-- The settings that scripts set one by one. -/
inductive SettingName where
  | startAtLogin
  | flattenContainers
  | oppositeOrientation
  | accordionPadding
  | rootLayout
  | rootOrientation
  deriving DecidableEq, Repr

inductive Api where
  | command
  | activateMode
  | windowTitle
  | windowAppName
  | workspaceWindowCount
  | setGap
  | onFocusChanged
  | onMonitorChanged
  | onWindowDetected
  | setting (name : SettingName)
  | bind
  | unbind
  deriving DecidableEq, Repr

namespace SettingName

def all : List SettingName :=
  [
    .startAtLogin, .flattenContainers, .oppositeOrientation, .accordionPadding, .rootLayout,
    .rootOrientation
  ]

def fieldName : SettingName → String
  | .startAtLogin => "start_at_login"
  | .flattenContainers => "enable_normalization_flatten_containers"
  | .oppositeOrientation => "enable_normalization_opposite_orientation_for_nested_containers"
  | .accordionPadding => "accordion_padding"
  | .rootLayout => "default_root_container_layout"
  | .rootOrientation => "default_root_container_orientation"

def kind : SettingName → Kind
  | .startAtLogin | .flattenContainers | .oppositeOrientation => .boolean
  | .accordionPadding => .number
  | .rootLayout | .rootOrientation => .string

end SettingName

namespace Api

/-- The global table that holds all namespaces. -/
def globalName : String := "aero"

/-- The namespaces with their functions, in the order in which they are made. -/
def namespaces : List (String × List Api) :=
  [
    ("api",
      [.command, .activateMode, .windowTitle, .windowAppName, .workspaceWindowCount, .setGap]),
    ("callbacks", [.onFocusChanged, .onMonitorChanged, .onWindowDetected]),
    ("config", SettingName.all.map Api.setting),
    ("keymap", [.bind, .unbind])
  ]

def namespaceName : Api → String
  | .command | .activateMode | .windowTitle | .windowAppName | .workspaceWindowCount | .setGap =>
    "api"
  | .onFocusChanged | .onMonitorChanged | .onWindowDetected => "callbacks"
  | .setting _ => "config"
  | .bind | .unbind => "keymap"

def fieldName : Api → String
  | .command => "command"
  | .activateMode => "activate_mode"
  | .windowTitle => "window_get_title"
  | .windowAppName => "window_get_app_name"
  | .workspaceWindowCount => "workspace_windows_count"
  | .setGap => "gap_set"
  | .onFocusChanged => "on_focus_changed"
  | .onMonitorChanged => "on_focused_monitor_changed"
  | .onWindowDetected => "on_window_detected"
  | .setting name => name.fieldName
  | .bind => "set"
  | .unbind => "del"

/-- The name that stands before every error a function raises. -/
def name (function : Api) : String :=
  globalName ++ "." ++ function.namespaceName ++ "." ++ function.fieldName

/-- A command as scripts write it. -/
def commandParameter : Parameter := .oneOf [.kind .string, .kind .function]

def commandArguments : List Argument := [.fixed commandParameter, .variadic commandParameter]

/-! The fields of the options of a window rule. -/

namespace WindowField

def appId : String := "appId"

def appName : String := "appNameRegexSubstring"

def title : String := "windowTitleRegexSubstring"

def workspace : String := "workspace"

def duringStartup : String := "duringAerospaceStartup"

def checkFurther : String := "checkFurtherCallbacks"

end WindowField

/-- The options of a window rule. All of them may be left out. -/
def windowOptions : TableSchema :=
  .mk [
    (WindowField.appId, .optional (.kind .string)),
    (WindowField.appName, .optional (.kind .string)),
    (WindowField.title, .optional (.kind .string)),
    (WindowField.workspace, .optional (.kind .string)),
    (WindowField.duringStartup, .optional (.kind .boolean)),
    (WindowField.checkFurther, .optional (.kind .boolean))
  ]

def arguments : Api → List Argument
  | .command => [.ofKind .string, .variadic (.ofKind .string)]
  | .activateMode => [.ofKind .string]
  | .windowTitle | .windowAppName => [.ofKind .number]
  | .workspaceWindowCount => [.ofKind .string]
  | .setGap => [.ofKind .number, .fixed (.oneOf [.kind .number, .kind .function])]
  | .onFocusChanged | .onMonitorChanged => commandArguments
  | .onWindowDetected => .fixed (.specific (.schema windowOptions)) :: commandArguments
  | .setting name => [.ofKind name.kind]
  | .bind => .ofKind .string :: .ofKind .string :: commandArguments
  | .unbind => [.ofKind .string, .ofKind .string]

end Api
end TileScript.Bridge
