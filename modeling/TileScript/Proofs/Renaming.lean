import TileScript.Bridge.ApiCall

/-! Contexts under other numbers. A renaming gives handles another context and leaves everything else as it
is, so a configuration that is renamed changes just as it would have changed before. -/

namespace TileScript.Bridge

variable (ids : ContextId → ContextId)

/-- The same registration in another context. -/
def Handle.rename (handle : Handle) : Handle :=
  ⟨⟨ids handle.pin.context, handle.pin.registration⟩, handle.object⟩

def Value.rename : Value → Value
  | .table handle => .table (handle.rename ids)
  | .function handle => .function (handle.rename ids)
  | value => value

def CallResult.rename : CallResult → CallResult
  | .single value => .single (value.rename ids)
  | .multiple values => .multiple (values.map (·.rename ids))
  | result => result

variable {ids}

namespace Value

theorem rename_comp (later : ContextId → ContextId) (value : Value) :
    (value.rename ids).rename later = value.rename (later ∘ ids) := by
  cases value <;> rfl

@[simp] theorem integer?_rename (value : Value) : (value.rename ids).integer? = value.integer? := by cases value <;> rfl

@[simp] theorem string?_rename (value : Value) : (value.rename ids).string? = value.string? := by cases value <;> rfl

@[simp] theorem boolean?_rename (value : Value) : (value.rename ids).boolean? = value.boolean? := by cases value <;> rfl

@[simp] theorem textOrEmpty_rename (value : Value) : (value.rename ids).textOrEmpty = value.textOrEmpty := by
  rw [textOrEmpty, string?_rename, textOrEmpty]

@[simp] theorem integerOrZero_rename (value : Value) : (value.rename ids).integerOrZero = value.integerOrZero := by
  rw [integerOrZero, integer?_rename, integerOrZero]

@[simp] theorem windowId?_rename (value : Value) : (value.rename ids).windowId? = value.windowId? := by
  rw [windowId?, integer?_rename, windowId?]

end Value

theorem CallResult.values_rename (result : CallResult) :
    (result.rename ids).values = result.values.map (List.map (Value.rename ids)) := by
  cases result <;> rfl

end TileScript.Bridge

namespace TileScript
open Bridge

section Definitions

variable (ids : ContextId → ContextId)

def Command.rename : Command → Command
  | .host command => .host command
  | .script function => .script (function.rename ids)

def Binding.rename (binding : Binding) : Binding := ⟨binding.chord, binding.commands.map (·.rename ids)⟩

def Mode.rename (mode : Mode) : Mode := ⟨mode.name, mode.bindings.map (·.rename ids)⟩

def Modes.rename (modes : Modes) : Modes := modes.map (Prod.map id (Mode.rename ids))

def WindowRule.rename (rule : WindowRule) : WindowRule :=
  ⟨rule.matcher, rule.checkFurther, rule.commands.map (·.rename ids)⟩

def Dynamic.rename {α : Type} : Dynamic α → Dynamic α
  | .callback function id => .callback (function.rename ids) (id.rename ids)
  | value => value

def Gaps.rename (gaps : Gaps) : Gaps :=
  ⟨gaps.innerHorizontal.rename ids, gaps.innerVertical.rename ids, gaps.outerLeft.rename ids,
    gaps.outerBottom.rename ids, gaps.outerTop.rename ids, gaps.outerRight.rename ids⟩

/-- The same configuration for contexts that are known by other numbers. -/
def Config.rename (config : Config) : Config :=
  { config with
    gaps := config.gaps.rename ids
    onFocusChanged := config.onFocusChanged.map (·.rename ids)
    onMonitorChanged := config.onMonitorChanged.map (·.rename ids)
    onWindowDetected := config.onWindowDetected.map (·.rename ids)
    modes := config.modes.rename ids }

def Change.rename : Change → Change
  | .gap position value => .gap position (value.rename ids)
  | .onFocusChanged commands => .onFocusChanged (commands.map (·.rename ids))
  | .onMonitorChanged commands => .onMonitorChanged (commands.map (·.rename ids))
  | .onWindowDetected rule => .onWindowDetected (rule.rename ids)
  | .bind mode binding => .bind mode (binding.rename ids)
  | change => change

end Definitions

variable {ids : ContextId → ContextId}

/-! ### One renaming after the other -/

section Composition

variable (later : ContextId → ContextId)

theorem Command.rename_comp (command : Command) :
    (command.rename ids).rename later = command.rename (later ∘ ids) := by
  cases command <;> rfl

theorem Binding.rename_comp (binding : Binding) :
    (binding.rename ids).rename later = binding.rename (later ∘ ids) := by
  simp only [rename, List.map_map, Function.comp_def, Command.rename_comp]

theorem Mode.rename_comp (mode : Mode) : (mode.rename ids).rename later = mode.rename (later ∘ ids) := by
  simp only [rename, List.map_map, Function.comp_def, Binding.rename_comp]

theorem Modes.rename_comp (modes : Modes) : (modes.rename ids).rename later = modes.rename (later ∘ ids) := by
  rw [rename, rename, List.map_map]
  exact List.map_congr_left fun entry _ => congrArg (Prod.mk entry.1) (entry.2.rename_comp later)

theorem WindowRule.rename_comp (rule : WindowRule) : (rule.rename ids).rename later = rule.rename (later ∘ ids) := by
  simp only [rename, List.map_map, Function.comp_def, Command.rename_comp]

theorem Dynamic.rename_comp {α : Type} (value : Dynamic α) :
    (value.rename ids).rename later = value.rename (later ∘ ids) := by
  cases value with
  | constant _ | perMonitor _ _ => rfl
  | callback function id => exact congrArg (callback _) (id.rename_comp later)

theorem Gaps.rename_comp (gaps : Gaps) : (gaps.rename ids).rename later = gaps.rename (later ∘ ids) := by
  simp only [rename, Dynamic.rename_comp]

theorem Config.rename_comp (config : Config) : (config.rename ids).rename later = config.rename (later ∘ ids) := by
  simp only [rename, Gaps.rename_comp, Modes.rename_comp, List.map_map, Function.comp_def, Command.rename_comp,
    WindowRule.rename_comp]

end Composition

/-! ### Changes of what is renamed -/

namespace Mode

theorem insert_rename (binding : Binding) (bindings : List Binding) :
    insert (binding.rename ids) (bindings.map (·.rename ids)) = (insert binding bindings).map (·.rename ids) := by
  induction bindings with
  | nil => rfl
  | cons first rest ih =>
    rw [List.map_cons, insert, insert]
    change (if first.chord = binding.chord then _ else _) = _
    split
    · rfl
    · exact congrArg (first.rename ids :: ·) ih

theorem bind_rename (mode : Mode) (binding : Binding) :
    (mode.rename ids).bind (binding.rename ids) = (mode.bind binding).rename ids :=
  congrArg (Mode.mk mode.name) (insert_rename binding mode.bindings)

theorem described?_rename (mode : Mode) (description : String) :
    (mode.rename ids).described? description = (mode.described? description).map (·.rename ids) := by
  rw [described?, rename, List.find?_map]
  rfl

theorem unbind_rename (mode : Mode) (description : String) :
    (mode.rename ids).unbind description = (mode.unbind description).rename ids := by
  simp only [unbind, rename, List.eraseP_map]
  rfl

end Mode

namespace Modes

theorem find?_rename (modes : Modes) (name : String) :
    (modes.rename ids).find? name = (modes.find? name).map (·.rename ids) := by
  induction modes with
  | nil => rfl
  | cons entry rest ih =>
    obtain ⟨first, mode⟩ := entry
    change List.lookup name ((first, mode.rename ids) :: rename ids rest) = (List.lookup name ((first, mode) :: rest)).map _
    rw [List.lookup_cons, List.lookup_cons]
    split
    · rfl
    · exact ih

theorem get_rename (modes : Modes) (name : String) : (modes.rename ids).get name = (modes.get name).rename ids := by
  rw [get, find?_rename, get]
  cases modes.find? name <;> rfl

theorem insert_rename (modes : Modes) (name : String) (mode : Mode) :
    (modes.rename ids).insert name (mode.rename ids) = (modes.insert name mode).rename ids := by
  induction modes with
  | nil => rfl
  | cons entry rest ih =>
    obtain ⟨first, old⟩ := entry
    change insert name (mode.rename ids) ((first, old.rename ids) :: rename ids rest) = _
    rw [insert, insert]
    split
    · rfl
    · split
      · rfl
      · exact congrArg ((first, old.rename ids) :: ·) ih

end Modes

theorem Gaps.set_rename (gaps : Gaps) (position : GapPosition) (value : Dynamic Int) :
    (gaps.rename ids).set position (value.rename ids) = (gaps.set position value).rename ids := by
  cases position <;> rfl

theorem Setting.apply_rename (setting : Setting) (config : Config) :
    setting.apply (config.rename ids) = (setting.apply config).rename ids := by
  cases setting <;> rfl

theorem Config.bind_rename (config : Config) (mode : String) (binding : Binding) :
    (config.rename ids).bind mode (binding.rename ids) = (config.bind mode binding).rename ids := by
  have bound : (config.modes.rename ids).insert mode (((config.modes.rename ids).get mode).bind (binding.rename ids)) =
      (config.modes.insert mode ((config.modes.get mode).bind binding)).rename ids := by
    rw [Modes.get_rename, Mode.bind_rename, Modes.insert_rename]
  exact congrArg (fun modes => { config.rename ids with modes := modes }) bound

/-- A host reads the same commands from values that are renamed. -/
theorem Host.commandOf_rename (host : Host) (value : Value) :
    host.commandOf (value.rename ids) = (host.commandOf value).map (·.rename ids) := by
  cases value with
  | string text =>
    change host.commandOf (.string text) = _
    rw [commandOf]
    cases host.readCommand (Words.split text) <;> rfl
  | number _ | boolean _ | nil | table _ | function _ => rfl

end TileScript
