import TileScript.Bridge.Arguments
import TileScript.Bridge.Object
import TileScript.Pattern.Reader

/-!
What the functions of the window manager do with arguments that their schemas accept.
-/

namespace TileScript.Bridge

open Attempt

namespace Value

def textOrEmpty (value : Value) : String := value.string?.getD ""

/-- A number without its fraction, zero for any other value. -/
def integerOrZero (value : Value) : Int := value.integer?.getD 0

/-- Numbers of windows fit 32 bits. -/
def windowIdLimit : Int := 0x100000000

/-- The number of a window, if it can be one. -/
def windowId? (value : Value) : Option Nat :=
  match value.integer? with
  | some id => if 0 ≤ id && id < windowIdLimit then some id.toNat else none
  | none => none

end Value

namespace ApiCall

/-- Runs a command of the host, and gives back a table of what it answered. Words that are no
command answer with the complaint about them. -/
def runCommand (arguments : Arguments) : Act CallResult := do
  let words := (← arguments.collect).filterMap Value.string?
  let answer ← Table.create
  match (← ask .host).readCommand words with
  | .ok command =>
    let output ← ask (.runCommand command .empty)
    report answer ("\n".intercalate output.stdout) ("\n".intercalate output.stderr) output.exitCode
  | .error refusal => report answer "" refusal.message (-1)
  return .single (.table answer)
where
  report (answer : Handle) (stdout stderr : String) (exitCode : Int) : Act Unit :=
    Table.setFields answer
      [("stdout", .string stdout), ("stderr", .string stderr), ("exitCode", .ofInt exitCode)]

/-- What is known about the window that the first argument means. -/
def window? (arguments : Arguments) : Act (Option WindowInfo) := do
  let id := (← arguments.value 1).windowId?
  return id.bind (← ask .host).window?

def countWindows (arguments : Arguments) : Act CallResult := do
  let workspace := WorkspaceName.ofString (← arguments.value 1).textOrEmpty
  return .single (.ofInt ((← ask .host).windowCount workspace))

/-- Sets a gap to a number, or to what a function gives back when it is asked with the position. -/
def setGap (arguments : Arguments) : Act CallResult := do
  let id ← arguments.value 1
  let gap : Dynamic Int := match ← arguments.value 2 with
    | .function function => .callback function id
    | value => .constant value.integerOrZero
  match id.integer?.bind GapPosition.ofId? with
  | none => return .failed "Invalid gap position value"
  | some position =>
    ask (.change (.gap position gap))
    return .none

/-! ### Callbacks -/

def stringField (options : Handle) (name : String) : Act (Option String) := do
  return (← Table.getField options name).string?

def patternField (dialect : Pattern.Dialect) (options : Handle) (name : String) : Act (Option Pattern) := do
  match ← stringField options name with
  | none => return none
  | some text =>
    match dialect.read text with
    | .ok pattern => return some pattern
    | .error refusal =>
      throw (.runtime ("Can't parse '" ++ text ++ "' regex for " ++ name ++ ": " ++
        refusal.report text))

def booleanField (options : Handle) (name : String) : Act (Option Bool) := do
  return (← Table.getField options name).boolean?

def matcher (dialect : Pattern.Dialect) (options : Handle) : Act WindowMatcher := do
  let appId ← stringField options Api.WindowField.appId
  let appName ← patternField dialect options Api.WindowField.appName
  let title ← patternField dialect options Api.WindowField.title
  let workspace ← stringField options Api.WindowField.workspace
  let duringStartup ← booleanField options Api.WindowField.duringStartup
  return ⟨appId, appName, title, workspace, duringStartup⟩

def addWindowRule (dialect : Pattern.Dialect) (arguments : Arguments) : Act CallResult := do
  match ← arguments.value 1 with
  | .table options =>
    let commands ← Arguments.commands (arguments.drop 1)
    let matcher ← matcher dialect options
    let checkFurther ← booleanField options Api.WindowField.checkFurther
    ask (.change (.onWindowDetected ⟨matcher, checkFurther.getD false, commands⟩))
    return .single (.boolean true)
  | _ => return .failed "expected a table of options"

/-! ### Settings -/

/-- The setting with the value an argument gives it. -/
def setting (name : SettingName) (value : Value) : Except String Setting :=
  match name with
  | .startAtLogin => .ok (.startAtLogin (value.boolean?.getD false))
  | .flattenContainers => .ok (.flattenContainers (value.boolean?.getD false))
  | .oppositeOrientation => .ok (.oppositeOrientation (value.boolean?.getD false))
  | .accordionPadding => .ok (.accordionPadding value.integerOrZero)
  | .rootLayout => .rootLayout <$> Layout.ofString value.textOrEmpty
  | .rootOrientation => .rootOrientation <$> Orientation.ofString value.textOrEmpty

def change (name : SettingName) (arguments : Arguments) : Act CallResult := do
  match setting name (← arguments.value 1) with
  | .error message => return .failed message
  | .ok setting =>
    ask (.change (.setting setting))
    return .none

/-! ### Keymap -/

/-- Binds a chord in a mode. A text that is no chord changes nothing. -/
def bindChord (arguments : Arguments) : Act CallResult := do
  let mode := (← arguments.value 1).textOrEmpty
  let key := (← arguments.value 2).textOrEmpty
  let commands ← Arguments.commands (arguments.drop 2)
  match Chord.ofString key with
  | .error _ => return .single (.boolean false)
  | .ok chord =>
    ask (.change (.bind mode ⟨chord, commands⟩))
    return .single (.boolean true)

/-- Removes a binding from a mode. A text that is no chord may still be how a binding is described.
-/
def unbindChord (arguments : Arguments) : Act CallResult := do
  let mode := (← arguments.value 1).textOrEmpty
  let key := (← arguments.value 2).textOrEmpty
  let description := match Chord.ofString key with
    | .ok chord => chord.description
    | .error _ => key
  ask (.change (.unbind mode description))
  return .single (.boolean true)

end ApiCall

/-- Runs a function of the window manager. -/
def Api.run (dialect : Pattern.Dialect) (arguments : Arguments) : Api → Act CallResult
  | .command => ApiCall.runCommand arguments
  | .activateMode => do
    ask (.change (.activate (← arguments.value 1).textOrEmpty))
    return .none
  | .windowTitle => do
    return .single (.ofOption .string ((← ApiCall.window? arguments).map (·.title)))
  | .windowAppName => do
    return .single (.ofOption .string ((← ApiCall.window? arguments).bind (·.appName)))
  | .workspaceWindowCount => ApiCall.countWindows arguments
  | .setGap => ApiCall.setGap arguments
  | .onFocusChanged => do
    ask (.change (.onFocusChanged (← Arguments.commands arguments)))
    return .single (.boolean true)
  | .onMonitorChanged => do
    ask (.change (.onMonitorChanged (← Arguments.commands arguments)))
    return .single (.boolean true)
  | .onWindowDetected => ApiCall.addWindowRule dialect arguments
  | .setting name => ApiCall.change name arguments
  | .bind => ApiCall.bindChord arguments
  | .unbind => ApiCall.unbindChord arguments

end TileScript.Bridge
