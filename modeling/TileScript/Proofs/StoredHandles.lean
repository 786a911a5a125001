import TileScript.Manager.Change

/-! Which handles a configuration holds after a change: those it held before, and those that the change
brings along. -/

namespace TileScript
open Bridge (Handle)

/-- The handles that a change puts into the configuration. -/
def Change.handles : Change → List Handle
  | .gap _ value => value.handles
  | .onFocusChanged commands | .onMonitorChanged commands => commands.flatMap Command.handles
  | .onWindowDetected rule => rule.commands.flatMap Command.handles
  | .bind _ binding => binding.commands.flatMap Command.handles
  | .setting _ | .unbind _ _ | .activate _ => []

namespace Modes

theorem mem_insert {modes : Modes} {name : String} {mode : Mode} {entry : String × Mode}
    (member : entry ∈ modes.insert name mode) : entry ∈ modes ∨ entry = (name, mode) := by
  induction modes with
  | nil => exact .inr (List.mem_singleton.mp member)
  | cons first rest ih =>
    obtain ⟨known, old⟩ := first
    rw [Modes.insert] at member
    split at member
    · rcases List.mem_cons.mp member with new | kept
      · exact .inr new
      · exact .inl (List.mem_cons_of_mem _ kept)
    · split at member
      · rcases List.mem_cons.mp member with new | kept
        · exact .inr new
        · exact .inl kept
      · rcases List.mem_cons.mp member with same | later
        · exact .inl (same ▸ List.mem_cons_self ..)
        · exact (ih later).imp_left (List.mem_cons_of_mem _)

theorem mem_get {modes : Modes} {name : String} {binding : Binding} (member : binding ∈ (modes.get name).bindings) :
    ∃ entry ∈ modes, binding ∈ entry.2.bindings := by
  rw [get] at member
  cases found : modes.find? name with
  | none =>
    rw [found] at member
    cases member
  | some mode =>
    rw [found] at member
    obtain ⟨before, after, rfl, -⟩ := List.lookup_eq_some_iff.mp found
    exact ⟨(name, mode), by simp, member⟩

end Modes

theorem Mode.mem_insert {bindings : List Binding} {binding other : Binding}
    (member : other ∈ Mode.insert binding bindings) : other ∈ bindings ∨ other = binding := by
  induction bindings with
  | nil => exact .inr (List.mem_singleton.mp member)
  | cons first rest ih =>
    rw [Mode.insert] at member
    split at member
    · rcases List.mem_cons.mp member with new | kept
      · exact .inr new
      · exact .inl (List.mem_cons_of_mem _ kept)
    · rcases List.mem_cons.mp member with same | later
      · exact .inl (same ▸ List.mem_cons_self ..)
      · exact (ih later).imp_left (List.mem_cons_of_mem _)

theorem Gaps.get_set (gaps : Gaps) (position other : GapPosition) (value : Dynamic Int) :
    (gaps.set position value).get other = if other = position then value else gaps.get other := by
  cases position <;> cases other <;> rfl

namespace Config

variable {config : Config} {handle : Handle} {command : Command}

/-- A command that a configuration can run at some time. -/
theorem mem_commands : command ∈ config.commands ↔
    command ∈ config.onFocusChanged ∨ command ∈ config.onMonitorChanged ∨
      (∃ rule ∈ config.onWindowDetected, command ∈ rule.commands) ∨
      ∃ entry ∈ config.modes, ∃ binding ∈ entry.2.bindings, command ∈ binding.commands := by
  simp only [commands, List.mem_append, List.mem_flatMap, or_assoc]

theorem mem_handles : handle ∈ config.handles ↔
    (∃ position, handle ∈ (config.gaps.get position).handles) ∨ ∃ command ∈ config.commands, handle ∈ command.handles := by
  have every : ∀ position : GapPosition, position ∈ GapPosition.all := by
    intro position
    cases position <;> decide
  simp only [handles, Gaps.handles, List.mem_append, List.mem_flatMap, every, true_and]

/-- A mode that is put in brings in no commands but those of its bindings that are new. -/
theorem mem_commands_insert {name : String} {mode : Mode}
    (member : command ∈ ({ config with modes := config.modes.insert name mode } : Config).commands) :
    command ∈ config.commands ∨ ∃ binding ∈ mode.bindings, command ∈ binding.commands := by
  rcases mem_commands.mp member with focus | monitor | rule | ⟨entry, stored, binding, bound, inside⟩
  · exact .inl (mem_commands.mpr (.inl focus))
  · exact .inl (mem_commands.mpr (.inr (.inl monitor)))
  · exact .inl (mem_commands.mpr (.inr (.inr (.inl rule))))
  · rcases Modes.mem_insert stored with old | rfl
    · exact .inl (mem_commands.mpr (.inr (.inr (.inr ⟨entry, old, binding, bound, inside⟩))))
    · exact .inr ⟨binding, bound, inside⟩

/-- Commands of bindings that are found under a name are commands of the configuration. -/
theorem mem_commands_get {name : String} {binding : Binding} (bound : binding ∈ (config.modes.get name).bindings)
    (inside : command ∈ binding.commands) : command ∈ config.commands := by
  obtain ⟨entry, stored, bound⟩ := Modes.mem_get bound
  exact mem_commands.mpr (.inr (.inr (.inr ⟨entry, stored, binding, bound, inside⟩)))

end Config

namespace Manager

variable {manager : Manager} {handle : Handle} {wanted : Change}

theorem refresh_config (manager : Manager) (mode : String) : (manager.refresh mode).config = manager.config := by
  rw [refresh]
  split <;> rfl

theorem commands_unbind {mode description : String} {command : Command}
    (member : command ∈ (manager.unbind mode description).config.commands) : command ∈ manager.config.commands := by
  rw [unbind] at member
  split at member
  · exact member
  next found known =>
    split at member
    · exact member
    · rw [refresh_config] at member
      rcases Config.mem_commands_insert member with old | ⟨binding, bound, inside⟩
      · exact old
      · have left : binding ∈ found.bindings := List.mem_of_mem_eraseP bound
        have named : manager.config.modes.get mode = found := by rw [Modes.get, known, Option.getD_some]
        exact Config.mem_commands_get (named ▸ left) inside

theorem commands_change {command : Command} (member : command ∈ (manager.change wanted).config.commands) :
    command ∈ manager.config.commands ∨ ∀ handle ∈ command.handles, handle ∈ wanted.handles := by
  have brought : ∀ {commands : List Command} {handle}, command ∈ commands → handle ∈ command.handles →
      handle ∈ commands.flatMap Command.handles := fun known inside => List.mem_flatMap.mpr ⟨command, known, inside⟩
  cases wanted with
  | gap _ _ | activate _ => exact .inl member
  | setting setting => cases setting <;> exact .inl member
  | onFocusChanged commands =>
    rcases Config.mem_commands.mp member with focus | others
    · rcases List.mem_append.mp focus with old | new
      · exact .inl (Config.mem_commands.mpr (.inl old))
      · exact .inr fun handle => brought new
    · exact .inl (Config.mem_commands.mpr (.inr others))
  | onMonitorChanged commands =>
    rcases Config.mem_commands.mp member with focus | monitor | others
    · exact .inl (Config.mem_commands.mpr (.inl focus))
    · rcases List.mem_append.mp monitor with old | new
      · exact .inl (Config.mem_commands.mpr (.inr (.inl old)))
      · exact .inr fun handle => brought new
    · exact .inl (Config.mem_commands.mpr (.inr (.inr others)))
  | onWindowDetected rule =>
    rcases Config.mem_commands.mp member with focus | monitor | ⟨known, listed, inside⟩ | modes
    · exact .inl (Config.mem_commands.mpr (.inl focus))
    · exact .inl (Config.mem_commands.mpr (.inr (.inl monitor)))
    · rcases List.mem_append.mp listed with old | new
      · exact .inl (Config.mem_commands.mpr (.inr (.inr (.inl ⟨known, old, inside⟩))))
      · cases List.mem_singleton.mp new
        exact .inr fun handle => brought inside
    · exact .inl (Config.mem_commands.mpr (.inr (.inr (.inr modes))))
  | bind mode binding =>
    rw [change, refresh_config] at member
    rcases Config.mem_commands_insert member with old | ⟨stored, bound, inside⟩
    · exact .inl old
    · rcases Mode.mem_insert bound with old | rfl
      · exact .inl (Config.mem_commands_get old inside)
      · exact .inr fun handle => brought inside
  | unbind mode description => exact .inl (commands_unbind member)

theorem gaps_unbind (manager : Manager) (mode description : String) :
    (manager.unbind mode description).config.gaps = manager.config.gaps := by
  rw [unbind]
  split
  · rfl
  · split
    · rfl
    · rw [refresh_config]

theorem gaps_change {position : GapPosition}
    (member : handle ∈ ((manager.change wanted).config.gaps.get position).handles) :
    handle ∈ (manager.config.gaps.get position).handles ∨ handle ∈ wanted.handles := by
  cases wanted with
  | gap changed value =>
    rw [change, Gaps.get_set] at member
    split at member
    · exact .inr member
    · exact .inl member
  | setting setting => cases setting <;> exact .inl member
  | bind mode binding => rw [change, refresh_config] at member; exact .inl member
  | unbind mode description => exact .inl (gaps_unbind manager mode description ▸ member)
  | onFocusChanged _ | onMonitorChanged _ | onWindowDetected _ | activate _ => exact .inl member

/-- No change brings a handle in but its own. -/
theorem handles_change (member : handle ∈ (manager.change wanted).config.handles) :
    handle ∈ manager.config.handles ∨ handle ∈ wanted.handles := by
  rcases Config.mem_handles.mp member with ⟨position, inside⟩ | ⟨command, known, inside⟩
  · exact (gaps_change inside).imp_left fun old => Config.mem_handles.mpr (.inl ⟨position, old⟩)
  · rcases commands_change known with old | new
    · exact .inl (Config.mem_handles.mpr (.inr ⟨command, old, inside⟩))
    · exact .inr (new handle inside)

end Manager

/-- A command of a function holds just that function. -/
theorem Host.handles_commandOf {host : Host} {value : Bridge.Value} {command : Command} {handle : Handle}
    (read : host.commandOf value = .ok command) (member : handle ∈ command.handles) : value = .function handle := by
  cases value with
  | function function =>
    cases read
    rw [List.mem_singleton.mp member]
  | string text =>
    rw [commandOf] at read
    cases parsed : host.readCommand (Words.split text) with
    | error refusal =>
      rw [parsed] at read
      cases read
    | ok found =>
      rw [parsed] at read
      cases read
      cases member
  | number _ | boolean _ | nil | table _ => cases read

end TileScript
