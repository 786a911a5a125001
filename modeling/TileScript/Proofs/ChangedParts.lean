import TileScript.Bridge.ApiCall
import TileScript.Proofs.AppliedBindings
import TileScript.Proofs.StoredHandles

/-! What a change leaves alone. Each one is confined to one part of what scripts configure, and to the
record of the bindings that were applied when it is about bindings. -/

namespace TileScript
open Bridge (SettingName)

/-- What can be changed on its own. -/
inductive Part where
  | gap (position : GapPosition)
  | setting (name : SettingName)
  | focusCommands
  | monitorCommands
  | windowRules
  | bindings (mode : String)
  | activeMode
  | executed
  deriving DecidableEq

def Setting.name : Setting → SettingName
  | .startAtLogin _ => .startAtLogin
  | .flattenContainers _ => .flattenContainers
  | .oppositeOrientation _ => .oppositeOrientation
  | .accordionPadding _ => .accordionPadding
  | .rootLayout _ => .rootLayout
  | .rootOrientation _ => .rootOrientation

/-- A setting as it is configured. -/
def Config.setting (config : Config) : SettingName → Setting
  | .startAtLogin => .startAtLogin config.startAtLogin
  | .flattenContainers => .flattenContainers config.flattenContainers
  | .oppositeOrientation => .oppositeOrientation config.oppositeOrientation
  | .accordionPadding => .accordionPadding config.accordionPadding
  | .rootLayout => .rootLayout config.rootLayout
  | .rootOrientation => .rootOrientation config.rootOrientation

/-- Everything but one part is as it was. -/
structure Manager.ChangesOnly (part : Part) (before after : Manager) : Prop where
  gaps : ∀ position, part ≠ .gap position → after.config.gaps.get position = before.config.gaps.get position
  settings : ∀ name, part ≠ .setting name → after.config.setting name = before.config.setting name
  focusCommands : part ≠ .focusCommands → after.config.onFocusChanged = before.config.onFocusChanged
  monitorCommands : part ≠ .monitorCommands → after.config.onMonitorChanged = before.config.onMonitorChanged
  windowRules : part ≠ .windowRules → after.config.onWindowDetected = before.config.onWindowDetected
  bindings : ∀ mode, part ≠ .bindings mode → after.config.modes.find? mode = before.config.modes.find? mode
  activeMode : part ≠ .activeMode → after.config.activeMode = before.config.activeMode
  executed : part ≠ .executed → after.host.executed = before.host.executed
  applied : (∀ mode, part ≠ .bindings mode) → part ≠ .activeMode → after.host.applied = before.host.applied

namespace Mode

/-- A binding of a mode has made room for another one; either may be missing. -/
def Replaces (old new : Option Binding) (before after : Mode) : Prop :=
  after.name = before.name ∧ ∃ earlier later, before.bindings = earlier ++ old.toList ++ later ∧
    after.bindings = earlier ++ new.toList ++ later

theorem lookup_bind (mode : Mode) (binding : Binding) : (mode.bind binding).lookup binding.chord = some binding := by
  rw [lookup, bind]
  induction mode.bindings with
  | nil => simp [insert]
  | cons first rest ih =>
    rw [insert]
    split
    next => simp
    next different => simpa [different] using ih

theorem unbind_replaces (mode : Mode) (description : String) :
    ∃ old, (∀ other ∈ old, Binding.description other = description) ∧
      (old = none → ∀ binding ∈ mode.bindings, binding.description ≠ description) ∧
      mode.Replaces old none (mode.unbind description) := by
  by_cases bound : ∃ binding ∈ mode.bindings, binding.description = description
  · obtain ⟨binding, member, described⟩ := bound
    obtain ⟨found, earlier, later, -, test, before, after⟩ :=
      List.exists_of_eraseP (p := (·.description == description)) member (by simpa using described)
    refine ⟨some found, by simpa using test, by simp, rfl, earlier, later, ?_, ?_⟩
    · rw [before, Option.toList_some, List.append_assoc, List.singleton_append]
    · rw [unbind, after, Option.toList_none, List.append_nil]
  · have kept : mode.bindings.eraseP (·.description == description) = mode.bindings :=
      List.eraseP_of_forall_not (by simpa using bound)
    refine ⟨none, by simp, fun _ => by simpa using bound, rfl, mode.bindings, [], by simp, ?_⟩
    rw [unbind, kept]
    simp

end Mode

theorem Modes.find?_insert_self (modes : Modes) (name : String) (mode : Mode) :
    (modes.insert name mode).find? name = some mode := by
  have first : ∀ rest : Modes, Modes.find? ((name, mode) :: rest) name = some mode := fun rest => by
    rw [find?, List.lookup_cons, beq_self_eq_true]
  induction modes with
  | nil => exact first []
  | cons entry rest ih =>
    obtain ⟨other, old⟩ := entry
    rw [Modes.insert]
    split
    · exact first rest
    · next different =>
      split
      · exact first _
      · rw [find?, List.lookup_cons, beq_eq_false_iff_ne.mpr different]
        exact ih

theorem Modes.get_insert_self (modes : Modes) (name : String) (mode : Mode) : (modes.insert name mode).get name = mode := by
  rw [get, find?_insert_self, Option.getD_some]

/-! ### Changes -/

namespace Manager

variable {manager : Manager}

/-- What was applied after a change to the bindings of a mode: these bindings once more if the mode is the
active one. -/
def AppliesIfActive (mode : String) (before after : Manager) : Prop :=
  after.host.applied =
    before.host.applied ++ if before.config.activeMode = mode then [after.config.modes.get mode] else []

theorem changesOnly_self (manager : Manager) (part : Part) : manager.ChangesOnly part manager := by
  constructor <;> intros <;> rfl

theorem changesOnly_gap (position : GapPosition) (value : Dynamic Int) :
    manager.ChangesOnly (.gap position) (manager.change (.gap position value)) := by
  constructor <;> intros <;> try rfl
  next other different => exact (Gaps.get_set ..).trans (if_neg fun same => different (congrArg _ same.symm))

theorem changesOnly_setting (setting : Setting) :
    manager.ChangesOnly (.setting setting.name) (manager.change (.setting setting)) ∧
      (manager.change (.setting setting)).config.setting setting.name = setting := by
  refine ⟨?_, by cases setting <;> rfl⟩
  constructor
  case settings =>
    intro name different
    cases setting <;> cases name <;> first | rfl | exact absurd rfl different
  all_goals
    intros
    cases setting <;> rfl

theorem changesOnly_focus (commands : List Command) :
    manager.ChangesOnly .focusCommands (manager.change (.onFocusChanged commands)) := by
  constructor <;> intros <;> first | rfl | contradiction

theorem changesOnly_monitor (commands : List Command) :
    manager.ChangesOnly .monitorCommands (manager.change (.onMonitorChanged commands)) := by
  constructor <;> intros <;> first | rfl | contradiction

theorem changesOnly_window (rule : WindowRule) :
    manager.ChangesOnly .windowRules (manager.change (.onWindowDetected rule)) := by
  constructor <;> intros <;> first | rfl | contradiction

theorem changesOnly_activate (mode : String) : manager.ChangesOnly .activeMode (manager.change (.activate mode)) := by
  constructor <;> intros <;> first | rfl | contradiction

theorem changesOnly_execute (command : HostCommand) (env : CommandEnv) :
    manager.ChangesOnly .executed (manager.execute command env) := by
  constructor <;> intros <;> first | rfl | contradiction

/-- A mode is put in, and its bindings are applied if it is the active one. -/
theorem changesOnly_insert (manager : Manager) (name : String) (mode : Mode) {after : Manager}
    (put : after = ({ manager with config := { manager.config with
      modes := manager.config.modes.insert name mode } } : Manager).refresh name) :
    manager.ChangesOnly (.bindings name) after ∧ after.config.modes.get name = mode ∧
      manager.AppliesIfActive name after := by
  -- To apply bindings is a matter of the host alone.
  have config : after.config = { manager.config with modes := manager.config.modes.insert name mode } :=
    put ▸ refresh_config _ _
  have executed : after.host.executed = manager.host.executed := by
    rw [put, refresh]
    split <;> rfl
  have stored : after.config.modes.get name = mode := by
    rw [config]
    exact Modes.get_insert_self ..
  have applied : manager.AppliesIfActive name after := by
    rw [AppliesIfActive, stored, put, refresh]
    split
    · exact congrArg (fun found => _ ++ [found]) (Modes.get_insert_self ..)
    · exact (List.append_nil _).symm
  refine ⟨⟨?_, ?_, ?_, ?_, ?_, ?_, ?_, fun _ => executed, ?_⟩, stored, applied⟩
  · exact fun _ _ => by rw [config]
  · exact fun other _ => by rw [config]; cases other <;> rfl
  · exact fun _ => by rw [config]
  · exact fun _ => by rw [config]
  · exact fun _ => by rw [config]
  · intro other different
    rw [config]
    exact Modes.find?_insert_of_ne _ (fun same => different (congrArg _ same.symm)) mode
  · exact fun _ => by rw [config]
  · exact fun other => absurd rfl (other name)

theorem changesOnly_bind (manager : Manager) (mode : String) (binding : Binding) :
    manager.ChangesOnly (.bindings mode) (manager.change (.bind mode binding)) ∧
      (manager.change (.bind mode binding)).config.modes.get mode = (manager.config.modes.get mode).bind binding ∧
      manager.AppliesIfActive mode (manager.change (.bind mode binding)) := manager.changesOnly_insert mode _ rfl

/-- A binding is taken out of its mode; if none has the description, nothing changes at all. -/
theorem changesOnly_unbind (manager : Manager) (mode description : String) :
    manager.ChangesOnly (.bindings mode) (manager.change (.unbind mode description)) ∧
      ∃ old, (∀ other ∈ old, Binding.description other = description) ∧
        (manager.config.modes.get mode).Replaces old none
          ((manager.change (.unbind mode description)).config.modes.get mode) ∧
        (old = none → manager.change (.unbind mode description) = manager) ∧
        (old ≠ none → manager.AppliesIfActive mode (manager.change (.unbind mode description))) := by
  have unchanged : ∀ found : Mode, found.Replaces none none found := fun found => ⟨rfl, found.bindings, [], by simp, by simp⟩
  rw [change, unbind]
  -- Without the mode, or without a binding of the description in it, nothing is written.
  split
  next missing =>
    exact ⟨changesOnly_self manager _, none, by simp, unchanged _, fun _ => rfl, by simp⟩
  next found known =>
    have named : manager.config.modes.get mode = found := by rw [Modes.get, known, Option.getD_some]
    split
    next absent =>
      exact ⟨changesOnly_self manager _, none, by simp, unchanged _, fun _ => rfl, by simp⟩
    next present =>
      obtain ⟨only, stored, applied⟩ := manager.changesOnly_insert mode (found.unbind description) rfl
      obtain ⟨old, described, none, replaced⟩ := found.unbind_replaces description
      rw [named]
      refine ⟨only, old, described, ?_, fun gone => absurd ?_ present, fun _ => applied⟩
      · rw [stored]
        exact replaced
      · simpa [Mode.described?] using none gone

end Manager
end TileScript
