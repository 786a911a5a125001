import TileScript.Proofs.HandleUse
import TileScript.Proofs.SoundHandles

/-! No use that the engine makes of a stored handle fails for want of an object: neither the commands that
an event runs, one after the other, nor a gap that a script is asked for. This is so unless the last reload has
found tables that store functions when they are told of the end of their context. -/

namespace TileScript.Bridge
open Script Attempt

/-! ### Calls of stored functions -/

namespace Scene

/-- A value that means something to the scripts of this context. -/
def Knows (scene : Scene) (value : Value) : Prop := ∃ raw, scene.rawOf value = .ok raw

variable {scene after : Scene}

theorem knows_free {value : Value} (free : value.handle? = none) : scene.Knows value := by
  cases value with
  | number _ | string _ | boolean _ | nil => exact ⟨_, rfl⟩
  | table _ | function _ => cases free

theorem Grows.knows {value : Value} (grows : scene.Grows after) (known : scene.Knows value) : after.Knows value := by
  obtain ⟨raw, meaning⟩ := known
  exact ⟨raw, grows.rawOf meaning⟩

end Scene

namespace StackLogic

variable {α β : Type} {runtime : Runtime} {spared : Handle → Prop} {pre : Scene → Prop} {good : α → Scene → Prop}

/-- Started where `pre` holds, an act gives what is `good`, or fails, but not for want of an object. -/
structure Secure (logic : StackLogic) (pre : Scene → Prop) (act : Act α) (good : α → Scene → Prop) : Prop where
  gives : logic.Gives pre act good
  intact : ∀ site scene, logic.holds scene → pre scene → IntactFrom act logic.runner site scene

variable {logic : StackLogic}

theorem Secure.bind {act : Act α} {next : α → Act β} {final : β → Scene → Prop} (first : logic.Secure pre act good)
    (second : ∀ value, logic.Secure (good value) (next value) final) : logic.Secure pre (act >>= next) final := by
  refine ⟨first.gives.bind fun value => (second value).gives, fun site scene holds start => ?_⟩
  refine (first.intact site scene holds start).bind fun value between ran => ?_
  obtain ⟨⟨kept, -⟩, given⟩ := first.gives site scene _ between holds start ran
  exact (second value).intact site between kept.1 (given value rfl)

theorem Secure.keep {act : Act α} {known : Scene → Prop} (secure : logic.Secure pre act good)
    (stable : logic.Stable known) :
    logic.Secure (fun scene => known scene ∧ pre scene) act fun value scene => known scene ∧ good value scene :=
  ⟨secure.gives.keep stable, fun site scene holds start => secure.intact site scene holds start.2⟩

theorem secure_pure {value : α} (known : ∀ {scene}, pre scene → good value scene) :
    logic.Secure pre (pure value) good :=
  ⟨gives_pure known, fun site scene _ _ => intact_pure value _ site scene⟩

theorem secure_throw {error : Error} (known : ¬ error.IsDangling) : logic.Secure pre (throw error) good :=
  ⟨gives_throw error, fun site scene _ _ => intact_throw known _ site scene⟩

theorem stable_denotes (function : Handle) : (runtime.handles spared).Stable fun scene => scene.Denotes function :=
  fun grown => Scene.Grows.denotes grown

theorem stable_knows (value : Value) : (runtime.handles spared).Stable fun scene => scene.Knows value :=
  fun grown => Scene.Grows.knows grown

theorem secure_create :
    (runtime.handles spared).Secure (fun _ => True) Table.create fun table scene => scene.Knows (.table table) := by
  constructor
  · intro site scene result after sound start ran
    refine ⟨neutral_create site scene result after sound ran, ?_⟩
    rw [Table.exec_create] at ran
    cases ran
    have valid : scene.interpreter.registry.Valid := Scene.IsSound.registry sound
    have same : (scene.answer (.heap (.newTable 0 0))).2.interpreter.registry.Valid := valid
    rintro table ⟨⟩
    exact ⟨_, Scene.resolve_register same _ _⟩
  · intro site scene sound start error after ran
    rw [Table.exec_create] at ran
    cases ran

theorem secure_setFields (table : Handle) {fields : List (String × Value)}
    (free : ∀ field ∈ fields, field.2.handle? = none) :
    (runtime.handles spared).Secure (fun scene => scene.Knows (.table table)) (Table.setFields table fields)
      fun _ scene => scene.Knows (.table table) := by
  induction fields with
  | nil => exact secure_pure id
  | cons field rest ih =>
    obtain ⟨name, value⟩ := field
    have first : (runtime.handles spared).Secure (fun scene => scene.Knows (.table table)) (Table.setField table name value)
        fun _ scene => scene.Knows (.table table) := by
      refine ⟨(neutral_setField _ _ _).gives (stable_knows _), fun site scene sound start => ?_⟩
      obtain ⟨place, found⟩ := start
      obtain ⟨raw, known⟩ := scene.knows_free (free _ (List.mem_cons_self ..))
      exact intact_tableField found known name
    exact first.bind fun _ => ih fun other later => free other (List.mem_cons_of_mem _ later)

theorem secure_envTable (env : CommandEnv) :
    (runtime.handles spared).Secure (fun _ => True) env.toTable fun table scene => scene.Knows (.table table) := by
  refine secure_create.bind fun table => (secure_setFields table ?_).bind fun _ => secure_pure id
  have optional : ∀ {γ : Type} (make : γ → Value) (value : Option γ), (∀ known, (make known).handle? = none) →
      (Value.ofOption make value).handle? = none := by
    intro γ make value free
    cases value with
    | none => rfl
    | some known => exact free known
  simp only [List.mem_cons, List.not_mem_nil, or_false, forall_eq_or_imp, forall_eq]
  exact ⟨optional _ _ fun _ => rfl, optional _ _ fun _ => rfl, optional _ _ fun _ => rfl⟩

theorem secure_monitorTable (monitor : Monitor) :
    (runtime.handles spared).Secure (fun _ => True) monitor.toTable fun table scene => scene.Knows (.table table) := by
  refine secure_create.bind fun table => (secure_setFields table ?_).bind fun _ => secure_pure id
  simp [Value.ofInt, Value.handle?]

theorem secure_functionCall {function : Handle} {arguments : List Value}
    (known : ∀ {scene}, pre scene → scene.Denotes function ∧ ∀ argument ∈ arguments, scene.Knows argument) :
    (runtime.handles spared).Secure pre (Function.call function arguments) fun _ _ => True := by
  refine ⟨(neutral_functionCall function arguments).always, fun site scene sound start => ?_⟩
  obtain ⟨⟨callee, found⟩, given⟩ := known start
  exact intact_functionCall found given

theorem secure_runScript (function : Handle) (env : CommandEnv) :
    (runtime.handles spared).Secure (fun scene => scene.Denotes function ∧ True) (Command.runScript function env)
      fun _ _ => True := by
  refine ((secure_envTable env).keep (stable_denotes function)).bind fun table => ?_
  have given : ∀ {scene : Scene}, scene.Denotes function ∧ scene.Knows (.table table) →
      scene.Denotes function ∧ ∀ argument ∈ [Value.table table], scene.Knows argument := by
    rintro scene ⟨denotes, known⟩
    exact ⟨denotes, by simpa using known⟩
  exact (secure_functionCall given).bind fun _ => secure_pure fun _ => trivial

theorem secure_askScript [Castable α] (function : Handle) (id : Value) (asked : Monitor) :
    (runtime.handles spared).Secure (fun scene => scene.Denotes function ∧ scene.Knows id ∧ True)
      (Dynamic.ask function id asked : Act α) fun _ _ => True := by
  refine (((secure_monitorTable asked).keep (stable_knows id)).keep (stable_denotes function)).bind fun info => ?_
  have given : ∀ {scene : Scene}, scene.Denotes function ∧ scene.Knows id ∧ scene.Knows (.table info) →
      scene.Denotes function ∧ ∀ argument ∈ [id, .table info], scene.Knows argument := by
    rintro scene ⟨denotes, asked, known⟩
    exact ⟨denotes, by simpa using ⟨asked, known⟩⟩
  refine (secure_functionCall given).bind fun result => ?_
  split
  · exact secure_throw fun dangling => dangling
  · exact secure_throw fun dangling => dangling
  · split
    · exact secure_pure fun _ => trivial
    · exact secure_throw fun dangling => dangling

end StackLogic
end TileScript.Bridge

namespace TileScript
open Bridge

theorem World.IsSound.intact {α : Type} {runtime : Runtime} {spared : Handle → Prop} {world after : World}
    {context : ContextId} {act : Act α} {pre : Scene → Prop} {good : α → Scene → Prop} {error : Error}
    (sound : world.IsSound spared context)
    (secure : (runtime.handles spared).Secure pre act good)
    (start : ∀ interpreter, world.interpreter? context = some interpreter → pre (world.scene context interpreter))
    (ran : (Live.within context act).exec runtime world = some (.error error, after)) : ¬ error.IsDangling := by
  obtain ⟨interpreter, known, scene⟩ := sound.sound
  rw [Live.exec_within, World.run_open known, Option.map_eq_some_iff] at ran
  obtain ⟨⟨_, final⟩, performed, ⟨⟩⟩ := ran
  exact secure.intact .host _ scene (start interpreter known) error final performed

/-! ### Events -/

namespace Command

variable {runtime : Runtime} {spared : Handle → Prop} {env : CommandEnv} {world after : World} {context : ContextId}

/-- Runs commands in order, and tells what became of each. -/
def runEach (env : CommandEnv) : List Command → Live (List (Except Error Bool))
  | [] => return []
  | command :: rest => do
    let outcome ← Live.observe (command.run env)
    return outcome :: (← runEach env rest)

theorem exec_runAll (commands : List Command) :
    (runAll env commands).exec runtime world =
      ((runEach env commands).exec runtime world).map (Prod.map (Except.map fun _ => ()) id) := by
  induction commands generalizing world with
  | nil => rfl
  | cons command rest ih =>
    rw [runAll, runEach, Live.exec_bind, Live.exec_bind, Live.exec_observe]
    cases (command.run env).exec runtime world with
    | none => rfl
    | some ran =>
      obtain ⟨outcome, between⟩ := ran
      change (runAll env rest).exec runtime between =
        ((runEach env rest >>= fun later => pure (outcome :: later)).exec runtime between).map _
      rw [ih, Live.exec_bind]
      cases (runEach env rest).exec runtime between with
      | none => rfl
      | some ran =>
        obtain ⟨result, after⟩ := ran
        cases result <;> rfl

theorem run_intact {command : Command} {error : Error} (sound : world.IsSound spared context)
    (denotes : ∀ handle ∈ command.handles, world.Denotes context handle)
    (ran : (command.run env).exec runtime world = some (.error error, after)) : ¬ error.IsDangling := by
  cases command with
  | host command => cases ran
  | script function =>
    have known : world.Denotes context function := denotes function (List.mem_singleton_self function)
    change (Live.within function.context (runScript function env)).exec runtime world = _ at ran
    rw [known.1] at ran
    exact sound.intact (StackLogic.secure_runScript function env)
      (fun interpreter here => ⟨(World.denotes_iff here).mp known, trivial⟩) ran

theorem runEach_intact {commands : List Command} {result : Except Error (List (Except Error Bool))}
    (sound : world.IsSound spared context)
    (denotes : ∀ command ∈ commands, ∀ handle ∈ command.handles, world.Denotes context handle)
    (ran : (runEach env commands).exec runtime world = some (result, after)) :
    ∃ outcomes, result = .ok outcomes ∧ outcomes.length = commands.length ∧
      ∀ error, .error error ∈ outcomes → ¬ error.IsDangling := by
  induction commands generalizing world after result with
  | nil =>
    cases ran
    exact ⟨[], rfl, rfl, fun _ member => by cases member⟩
  | cons command rest ih =>
    rw [runEach, Live.exec_bind, Live.exec_observe, Option.bind_map, Option.bind_eq_some_iff] at ran
    obtain ⟨⟨outcome, between⟩, first, ran⟩ := ran
    have keeps : (Live.handleContinuity runtime spared context).Keeps (command.run env) :=
      Live.Continuity.keeps_command (fun function => Live.sound_within _ (StackLogic.neutral_runScript function env)) command
    obtain ⟨kept, still⟩ := keeps world outcome between first sound
    change (runEach env rest >>= _).exec runtime between = _ at ran
    rw [Live.exec_bind, Option.bind_eq_some_iff] at ran
    obtain ⟨⟨later, final⟩, others, ran⟩ := ran
    obtain ⟨outcomes, rfl, count, intact⟩ := ih kept
      (fun other member handle inside => still handle (denotes other (List.mem_cons_of_mem _ member) handle inside)) others
    cases ran
    refine ⟨outcome :: outcomes, rfl, congrArg (· + 1) count, fun error member => ?_⟩
    rcases List.mem_cons.mp member with here | later
    · exact run_intact sound (denotes command (List.mem_cons_self ..)) (here ▸ first)
    · exact intact error later

end Command

/-- Rules choose among their own commands. -/
theorem WindowRule.mem_select {window : DetectedWindow} {startup : Bool} {rules : List WindowRule} {command : Command}
    (member : command ∈ WindowRule.select window startup rules) : ∃ rule ∈ rules, command ∈ rule.commands := by
  induction rules with
  | nil => cases member
  | cons rule rest ih =>
    have further : command ∈ select window startup rest → ∃ known ∈ rule :: rest, command ∈ known.commands := by
      intro later
      obtain ⟨known, listed, held⟩ := ih later
      exact ⟨known, List.mem_cons_of_mem _ listed, held⟩
    rw [select] at member
    split at member
    · exact further member
    · split at member
      · rcases List.mem_append.mp member with here | later
        · exact ⟨rule, List.mem_cons_self .., here⟩
        · exact further later
      · exact ⟨rule, List.mem_cons_self .., member⟩

/-- What an engine is told about. -/
inductive Event where
  | focus (env : CommandEnv)
  | monitorFocus (env : CommandEnv)
  | detected (window : DetectedWindow) (startup : Bool)

namespace Event

/-- What the engine does about an event. -/
def dispatch : Event → Live Unit
  | .focus env => Engine.focusChanged env
  | .monitorFocus env => Engine.monitorChanged env
  | .detected window startup => Engine.windowDetected window startup

/-- The commands that an event runs. -/
def commands (event : Event) (config : Config) : List Command :=
  match event with
  | .focus _ => config.onFocusChanged
  | .monitorFocus _ => config.onMonitorChanged
  | .detected window startup => config.windowCommands window startup

/-- Where an event runs its commands. -/
def env : Event → CommandEnv
  | .focus env | .monitorFocus env => env
  | .detected window _ => ⟨some window.id, window.workspace, none⟩

/-- What becomes of every command that an event runs. -/
def outcomes (event : Event) : Live (List (Except Error Bool)) := do
  Command.runEach event.env (event.commands (← Live.config))

theorem exec_dispatch (event : Event) (runtime : Runtime) (world : World) :
    event.dispatch.exec runtime world =
      (event.outcomes.exec runtime world).map (Prod.map (Except.map fun _ => ()) id) := by
  cases event with
  | focus env | monitorFocus env | detected _ _ => exact Command.exec_runAll _

theorem commands_mem {event : Event} {config : Config} {command : Command}
    (member : command ∈ event.commands config) : command ∈ config.commands := by
  cases event with
  | focus env => exact Config.mem_commands.mpr (.inl member)
  | monitorFocus env => exact Config.mem_commands.mpr (.inr (.inl member))
  | detected window startup =>
    exact Config.mem_commands.mpr (.inr (.inr (.inl (WindowRule.mem_select member))))

end Event

theorem Engine.gap_intact {runtime : Runtime} {world after : World} {context : ContextId} {error : Error}
    (sound : world.IsSound (fun _ => False) context) (position : GapPosition) (asked : Monitor) (monitors : List Monitor)
    (ran : (Engine.gap position asked monitors).exec runtime world = some (.error error, after)) :
    ¬ error.IsDangling := by
  have stored : ∀ handle ∈ (world.manager.config.gaps.get position).handles, world.Denotes context handle :=
    fun handle member => (sound.stored (Config.mem_handles.mpr (.inl ⟨position, member⟩))).resolve_left id
  change ((world.manager.config.gaps.get position).evaluate asked monitors).exec runtime world = _ at ran
  cases value : world.manager.config.gaps.get position with
  | constant _ | perMonitor _ _ =>
    rw [value] at ran
    cases ran
  | callback function id =>
    rw [value] at ran stored
    have known : world.Denotes context function := stored function (List.mem_cons_self ..)
    change (Live.within function.context (Dynamic.ask function id asked)).exec runtime world = _ at ran
    rw [known.1] at ran
    refine sound.intact (StackLogic.secure_askScript function id asked) (fun interpreter here => ?_) ran
    refine ⟨(World.denotes_iff here).mp known, ?_, trivial⟩
    cases free : id.handle? with
    | none => exact Scene.knows_free free
    | some handle =>
      have meant : world.Denotes context handle := by
        refine stored handle (List.mem_cons_of_mem _ ?_)
        rw [free]
        exact List.mem_singleton_self handle
      obtain ⟨object, resolved⟩ := (World.denotes_iff here).mp meant
      cases id with
      | table _ | function _ =>
        cases free
        exact ⟨_, resolved⟩
      | number _ | string _ | boolean _ | nil => cases free

/-! ### Sessions -/

/-- The last reload, if there was any, has left no function of the old context behind. -/
inductive Session.Tidy : Session → Prop where
  | create {host initPath engine world} (runtime : Runtime)
    (made : (Engine.create initPath).exec runtime (.initial host) = some (.ok engine, world)) : Tidy ⟨engine, world⟩
  | step {session next : Session} (tidy : Tidy session) (step : session.Step next) (same : next.engine = session.engine) : Tidy next
  | reload {session : Session} {renewed left after outcome} (reached : session.Reachable) (runtime : Runtime) (file : ScriptFile)
    (leaves : session.engine.Leaves runtime session.world left) (none : left.manager.config.handles = [])
    (ran : (session.engine.reload file).exec runtime session.world = some (.ok (renewed, outcome), after)) :
    Tidy ⟨renewed, after⟩

theorem Session.tidy_blank : blank.Tidy := by
  obtain ⟨made, created, -⟩ := Engine.create_ends (.plain 50) (.initial .blank) "init.lua"
  rw [blank, Live.leadsTo_eq created]
  exact .create (.plain 50) created

theorem Session.Tidy.sound {session : Session} (tidy : session.Tidy) :
    session.world.IsSound (fun _ => False) session.engine.context := by
  induction tidy with
  | create runtime made =>
    exact Live.sound_create (fun context => by simp [World.initial, World.interpreter?]) (fun _ stored => by cases stored) made
  | step tidy step same ih => exact step.sound_same ih same
  | reload reached runtime file leaves none ran =>
    refine Engine.sound_reload reached.sound leaves (fun handle stored => ?_) ran
    rw [none] at stored
    cases stored

/-- A stored handle denotes a function of the context in use, or it is of an older context, which is closed: then the
context has stored it at its end. A reload leaves none of these behind where no table waits for the end, and where there
are none, no command that an event runs and no gap that is asked for fails because a handle is stale or foreign. -/
theorem stored_handles_current {session : Session} (reachable : session.Reachable) :
    (∀ handle ∈ session.world.manager.config.handles,
      (handle.context = session.engine.context ∧ ∃ function, session.world.object? handle = some (.function function)) ∨
      (handle.context.index < session.engine.context.index ∧ session.world.isOpen handle.context = false)) ∧
    (∀ (runtime : Runtime) file renewed outcome after, session.world.IsIdle session.engine.context →
      (session.engine.reload file).exec runtime session.world = some (.ok (renewed, outcome), after) →
        Session.Tidy ⟨renewed, after⟩) ∧
    (session.Tidy →
      (∀ handle ∈ session.world.manager.config.handles, handle.context = session.engine.context ∧
        ∃ function, session.world.object? handle = some (.function function)) ∧
      (∀ (runtime : Runtime) (event : Event),
        event.dispatch.exec runtime session.world =
            (event.outcomes.exec runtime session.world).map (Prod.map (Except.map fun _ => ()) id) ∧
          ∀ result after, event.outcomes.exec runtime session.world = some (result, after) →
            ∃ outcomes, result = .ok outcomes ∧
              outcomes.length = (event.commands session.world.manager.config).length ∧
              ∀ error, .error error ∈ outcomes → error ≠ .stale ∧ error ≠ .foreign) ∧
      ∀ (runtime : Runtime) position asked monitors error after,
        (Engine.gap position asked monitors).exec runtime session.world = some (.error error, after) →
          error ≠ .stale ∧ error ≠ .foreign) := by
  refine ⟨fun handle stored => ?_, fun runtime file renewed outcome after idle ran => ?_, fun tidy => ?_⟩
  · obtain older | denotes := reachable.sound.stored stored
    · have apart : handle.context ≠ session.engine.context := fun same => Nat.lt_irrefl _ (same ▸ older : _ < _)
      refine .inr ⟨older, ?_⟩
      rw [World.isOpen, reachable.sound.alone _ apart]
      rfl
    · exact .inl denotes
  · have leaves := Engine.leaves_of_idle idle runtime
    exact .reload reachable runtime file leaves rfl ran
  · have sound := tidy.sound
    have denotes : ∀ handle ∈ session.world.manager.config.handles, session.world.Denotes session.engine.context handle :=
      fun handle stored => (sound.stored stored).resolve_left id
    refine ⟨denotes, fun runtime event => ⟨event.exec_dispatch runtime _, fun result after ran => ?_⟩, ?_⟩
    · have known : ∀ command ∈ event.commands session.world.manager.config, ∀ handle ∈ command.handles,
          session.world.Denotes session.engine.context handle := fun command member handle inside =>
        denotes handle (Config.mem_handles.mpr (.inr ⟨command, Event.commands_mem member, inside⟩))
      obtain ⟨outcomes, rfl, count, intact⟩ := Command.runEach_intact sound known ran
      exact ⟨outcomes, rfl, count, fun error member => Error.not_isDangling.mp (intact error member)⟩
    · intro runtime position asked monitors error after ran
      exact Error.not_isDangling.mp (Engine.gap_intact sound position asked monitors ran)

/-- An engine that has registered a function for an event. -/
def Session.listening : Session := blank.running "aero.callbacks.on_focus_changed(print)"

/-- The script is run, and then the event comes. -/
theorem Session.listening_told :
    ((blank.engine.runSource "aero.callbacks.on_focus_changed(print)").exec (.plain 50) blank.world).map (·.1) =
      some (.ok []) ∧
    listening.world.manager.config.handles.length = 1 ∧ listening.world.manager.config.onFocusChanged.length = 1 ∧
    ((Event.focus .empty).outcomes.exec (.plain 50) listening.world).isSome := by
  decide +kernel

theorem Session.step_listening : blank.Step listening := step_running listening_told.1

/-- A script that registers a function leaves its handle behind, and an event runs it. -/
theorem stored_handles_current_listener : ∃ session : Session, session.Reachable ∧ session.Tidy ∧
    (∃ handle ∈ session.world.manager.config.handles, handle.context = session.engine.context ∧
      ∃ function, session.world.object? handle = some (.function function)) ∧
    ∃ outcome after, (Event.focus .empty).outcomes.exec (.plain 50) session.world = some (.ok [outcome], after) ∧
      ∀ error, outcome = .error error → error ≠ .stale ∧ error ≠ .foreign := by
  obtain ⟨-, stored, registered, told⟩ := Session.listening_told
  have reachable : Session.listening.Reachable := .step Session.reachable_blank Session.step_listening
  have tidy : Session.listening.Tidy := .step Session.tidy_blank Session.step_listening rfl
  obtain ⟨current, events, -⟩ := (stored_handles_current reachable).2.2 tidy
  obtain ⟨handle, inside⟩ := List.exists_mem_of_length_pos (Nat.lt_of_lt_of_eq Nat.zero_lt_one stored.symm)
  obtain ⟨⟨answer, final⟩, dispatched⟩ := Option.isSome_iff_exists.mp told
  obtain ⟨outcomes, rfl, count, intact⟩ := (events (.plain 50) (.focus .empty)).2 answer final dispatched
  have commands (config : Config) : (Event.focus .empty).commands config = config.onFocusChanged := rfl
  rw [commands, registered] at count
  obtain ⟨outcome, rfl⟩ := List.length_eq_one_iff.mp count
  refine ⟨Session.listening, reachable, tidy, ⟨handle, inside, current handle inside⟩, outcome, final, dispatched, ?_⟩
  rintro error rfl
  exact intact error (List.mem_singleton_self _)

/-- What a table stores when its context comes to its end is of no use to the engine that takes its place. -/
theorem stored_handle_of_closed_context : ∃ session : Session, session.Reachable ∧
    (∃ handle ∈ session.world.manager.config.handles, handle.context ≠ session.engine.context) ∧
    ∀ asked monitors, (Engine.gap .innerHorizontal asked monitors).exec (.plain 50) session.world =
      some (.error .stale, session.world) := by
  obtain ⟨left, function, id, leaves, -, gap, here⟩ := Session.parted_leaves
  obtain ⟨made, -, manager, started⟩ := Engine.exec_start_initFile (.plain 50) left Session.parted.engine.initPath
  have reloaded := (leaves.exec_reload .missing).trans (started .missing)
  let session : Session := ⟨⟨⟨left.contexts.size⟩, Session.parted.engine.initPath⟩, Engine.activated made⟩
  have reachable : session.Reachable := .step Session.reachable_parted (Session.step_reload reloaded)
  have set : session.world.manager.config.gaps.get .innerHorizontal = .callback function id :=
    (congrArg (fun manager => manager.config.gaps.get .innerHorizontal) manager).trans gap
  have apart : function.context ≠ session.engine.context := by
    obtain ⟨interpreter, known, -⟩ := World.IsSound.sound Session.reachable_parted.sound
    intro same
    have inside := World.index_lt known
    rw [← here, same, ← leaves.size] at inside
    exact Nat.lt_irrefl _ inside
  refine ⟨session, reachable, ⟨function, ?_, apart⟩, fun asked monitors => ?_⟩
  · exact Config.mem_handles.mpr (.inl ⟨.innerHorizontal, set ▸ List.mem_cons_self⟩)
  · change ((session.world.manager.config.gaps.get .innerHorizontal).evaluate asked monitors).exec (.plain 50) _ = _
    rw [set]
    exact World.run_closed (World.IsSound.alone reachable.sound _ apart)

end TileScript
