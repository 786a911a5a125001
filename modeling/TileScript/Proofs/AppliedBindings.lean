import TileScript.Proofs.Reloads
import TileScript.Proofs.Sessions

/-! The bindings that were last handed to the host are those of the active mode. Every change of either
sees to it by itself, so this holds after every step, also of scripts that fail midway. -/

namespace TileScript
open Bridge

namespace Modes

theorem find?_insert_of_ne (modes : Modes) {name other : String} (different : other ≠ name) (mode : Mode) :
    (modes.insert name mode).find? other = modes.find? other := by
  have skipped : ∀ rest : Modes, Modes.find? ((name, mode) :: rest) other = rest.find? other := fun rest => by
    rw [find?, List.lookup_cons, beq_eq_false_iff_ne.mpr different]
    rfl
  induction modes with
  | nil => exact skipped []
  | cons entry rest ih =>
    obtain ⟨first, old⟩ := entry
    rw [Modes.insert]
    split
    next same =>
      subst same
      rw [skipped, find?, find?, List.lookup_cons, beq_eq_false_iff_ne.mpr different]
    next =>
      split
      · exact skipped _
      · simp only [find?, List.lookup_cons] at ih ⊢
        rw [ih]

end Modes

namespace Manager

/-- The host has the bindings of the active mode, or none at all while they are as at first. -/
def IsSettled (manager : Manager) : Prop :=
  match manager.host.applied.getLast? with
  | some mode => mode = manager.config.activeBindings
  | none => manager.config.activeMode = Config.mainMode ∧
      manager.config.modes.find? Config.mainMode = some (.empty Config.mainMode)

theorem initial_isSettled {host : Host} (untouched : host.applied = []) : (initial host).IsSettled := by
  rw [IsSettled, initial, untouched]
  exact ⟨rfl, rfl⟩

/-- Only modes, the active mode and what was applied matter. -/
theorem IsSettled.of_same {manager after : Manager} (settled : manager.IsSettled)
    (applied : after.host.applied = manager.host.applied) (modes : after.config.modes = manager.config.modes)
    (active : after.config.activeMode = manager.config.activeMode) : after.IsSettled := by
  rw [IsSettled, Config.activeBindings] at settled ⊢
  rw [applied, modes, active]
  exact settled

/-- Whatever is handed to the host last is in force if it is what the active mode has. -/
theorem isSettled_apply {config : Config} {mode : Mode} (host : Host) (current : mode = config.activeBindings) :
    (Manager.mk config (host.apply mode)).IsSettled := by
  rw [IsSettled, Host.apply, List.getLast?_append]
  exact current

/-- Bindings of a mode that is not active do not matter. -/
theorem IsSettled.insert {manager : Manager} (settled : manager.IsSettled) (name : String) (mode : Mode) :
    ({ manager with config := { manager.config with modes := manager.config.modes.insert name mode } }.refresh
      name).IsSettled := by
  rw [refresh]
  split
  next active => exact isSettled_apply _ (by rw [Config.activeBindings, active])
  next inactive =>
    have kept := manager.config.modes.find?_insert_of_ne inactive mode
    simp only [IsSettled, Config.activeBindings, Modes.get] at settled ⊢
    split
    next last =>
      rw [last] at settled
      rw [kept]
      exact settled
    next none =>
      rw [none] at settled
      exact ⟨settled.1, (settled.1 ▸ kept).trans settled.2⟩

theorem IsSettled.execute {manager : Manager} (settled : manager.IsSettled) (command : HostCommand) (env : CommandEnv) :
    (manager.execute command env).IsSettled := settled.of_same rfl rfl rfl

theorem IsSettled.unbind {manager : Manager} (settled : manager.IsSettled) (mode description : String) :
    (manager.unbind mode description).IsSettled := by
  rw [Manager.unbind]
  split
  · exact settled
  · split
    · exact settled
    · exact settled.insert _ _

theorem isSettled_activate (manager : Manager) (mode : String) : (manager.activate mode).IsSettled :=
  isSettled_apply _ rfl

theorem IsSettled.change {manager : Manager} (settled : manager.IsSettled) (change : Change) :
    (manager.change change).IsSettled := by
  cases change with
  | gap _ _ | onFocusChanged _ | onMonitorChanged _ | onWindowDetected _ => exact settled.of_same rfl rfl rfl
  | setting setting => cases setting <;> exact settled.of_same rfl rfl rfl
  | bind mode binding => exact settled.insert _ _
  | unbind mode description => exact settled.unbind mode description
  | activate mode => exact isSettled_activate manager mode

/-! ### Runs -/

/-- No request of scripts or of native functions unsettles the bindings. -/
theorem settled_conserved : Conserved fun before after => before.manager.IsSettled → after.manager.IsSettled where
  refl _ := id
  trans early late := late ∘ early
  request request scene settled := by
    cases request with
    | runCommand command env => exact settled.execute command env
    | change change => exact settled.change change
    | heap _ | takeLost | function _ | newNative _ | newChunk _ | context | stack | setStack _ | register _ | registered _
    | release _ | host | note _ _ => exact settled

end Manager

namespace Live

variable {α : Type} {runtime : Runtime}

/-- Worlds whose bindings stay settled. -/
def bindingContinuity (runtime : Runtime) : Continuity where
  runtime := runtime
  kept before after := before.manager.IsSettled → after.manager.IsSettled
  refl _ := id
  trans early late := late ∘ early
  execute _ command env settled := settled.execute command env

theorem settled_within (context : ContextId) (act : Act α) :
    (bindingContinuity runtime).Keeps (Live.within context act) := by
  intro world result after ran settled
  obtain ⟨-, -, rfl⟩ | ⟨interpreter, scene, -, performed, rfl⟩ := World.run_cases ran
  · exact settled
  · exact Manager.settled_conserved.act performed settled

theorem settled_initFile (engine : Engine) (file : ScriptFile) :
    (bindingContinuity runtime).Keeps (engine.runInitFile file) := by
  cases file with
  | missing => exact Continuity.keeps_pure ()
  | directory | unreadable _ | bytes _ => exact settled_within engine.context _

/-- A reload starts with the bindings as they are at first and hands them to the host before any script. -/
theorem settled_reload (engine : Engine) (file : ScriptFile) {world after : World}
    {result : Except Error (Engine × Except Error Unit)}
    (ran : (engine.reload file).exec runtime world = some (result, after)) : after.manager.IsSettled := by
  obtain ⟨left, -, ran⟩ := Engine.leaves_of_reload ran
  obtain ⟨made, -, -, started⟩ := Engine.exec_start_initFile runtime left engine.initPath
  rw [started, Option.map_eq_some_iff] at ran
  obtain ⟨⟨outcome, final⟩, initialized, ⟨⟩⟩ := ran
  exact settled_initFile _ file _ _ _ initialized (Manager.isSettled_activate _ _)

end Live

namespace Session

theorem Step.settled {session next : Session} (step : Step session next) (settled : session.world.manager.IsSettled) :
    next.world.manager.IsSettled := by
  cases step with
  | source runtime text ran => exact Live.settled_within _ _ _ _ _ ran settled
  | initFile runtime file ran => exact Live.settled_initFile _ file _ _ _ ran settled
  | focus runtime env ran =>
    exact Live.Continuity.keeps_focusChanged (fun _ => Live.settled_within _ _) _ _ _ ran settled
  | monitorFocus runtime env ran =>
    exact Live.Continuity.keeps_monitorChanged (fun _ => Live.settled_within _ _) _ _ _ ran settled
  | window runtime window startup ran =>
    exact Live.Continuity.keeps_windowDetected (fun _ => Live.settled_within _ _) startup _ _ _ ran settled
  | gap runtime position asked monitors ran =>
    exact Live.Continuity.keeps_gap (fun _ _ => Live.settled_within _ _) position monitors _ _ _ ran settled
  | collect held => exact settled
  | reload runtime file ran | brokenReload runtime file ran => exact Live.settled_reload _ file ran

theorem Reachable.settled {session : Session} (reachable : Reachable session) : session.world.manager.IsSettled := by
  induction reachable with
  | @create host initPath _ _ runtime untouched made =>
    obtain ⟨_, created, manager⟩ := Engine.create_ends runtime (.initial host) initPath
    cases created.symm.trans made
    exact manager ▸ Manager.initial_isSettled untouched
  | step reached step ih => exact step.settled ih

end Session

/-- What was applied last is what the active mode has, an empty mode if there is no such mode. Before
anything was applied, the first mode is active and empty. -/
theorem applied_bindings_current {session : Session} (reachable : session.Reachable) :
    (∀ mode, session.world.manager.host.applied.getLast? = some mode →
      mode = (session.world.manager.config.modes.find? session.world.manager.config.activeMode).getD
        (.empty session.world.manager.config.activeMode)) ∧
    (session.world.manager.host.applied = [] →
      session.world.manager.config.activeMode = "main" ∧
        session.world.manager.config.modes.find? "main" = some (.empty "main")) := by
  have settled := reachable.settled
  rw [Manager.IsSettled] at settled
  constructor
  · intro mode last
    rw [last] at settled
    exact settled
  · intro untouched
    rw [untouched] at settled
    exact settled

/-- A reload without an init script is one step after which something was applied. -/
theorem applied_bindings_current_reload : ∃ session : Session, session.Reachable ∧
    ∃ mode, session.world.manager.host.applied.getLast? = some mode ∧
      mode = (session.world.manager.config.modes.find? session.world.manager.config.activeMode).getD
        (.empty session.world.manager.config.activeMode) := by
  obtain ⟨world, created, -⟩ := Engine.create_ends (.plain 0) (.initial .blank) "init.lua"
  have leaves := Engine.leaves_of_idle (Engine.create_isIdle created) (.plain 0)
  obtain ⟨made, -, -, started⟩ := Engine.exec_start_initFile (.plain 0) _ "init.lua"
  have reloaded := (leaves.exec_reload .missing).trans (started .missing)
  have reachable := Session.Reachable.step (.create (.plain 0) rfl created) (.reload (.plain 0) .missing reloaded)
  exact ⟨_, reachable, _, List.getLast?_concat, (applied_bindings_current reachable).1 _ List.getLast?_concat⟩

end TileScript
