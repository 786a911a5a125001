import TileScript.Proofs.ChangedParts

/-! What runs order of the window manager, in the order in which they do. A manager is what the orders have
made of it, however deep the calls were nested in which they were given. -/

namespace TileScript
open Bridge

inductive Order where
  | change (wanted : Change)
  | execute (command : HostCommand) (env : CommandEnv)

def Manager.follow (manager : Manager) : Order → Manager
  | .change wanted => manager.change wanted
  | .execute command env => manager.execute command env

/-- What an order changes. -/
def Order.part : Order → Part
  | .change (.gap position _) => .gap position
  | .change (.setting chosen) => .setting chosen.name
  | .change (.onFocusChanged _) => .focusCommands
  | .change (.onMonitorChanged _) => .monitorCommands
  | .change (.onWindowDetected _) => .windowRules
  | .change (.bind mode _) | .change (.unbind mode _) => .bindings mode
  | .change (.activate _) => .activeMode
  | .execute _ _ => .executed

theorem Manager.changesOnly_follow (manager : Manager) (order : Order) :
    manager.ChangesOnly order.part (manager.follow order) := by
  cases order with
  | execute command env => exact changesOnly_execute command env
  | change wanted =>
    cases wanted with
    | gap position value => exact changesOnly_gap position value
    | setting setting => exact (changesOnly_setting setting).1
    | onFocusChanged commands => exact changesOnly_focus commands
    | onMonitorChanged commands => exact changesOnly_monitor commands
    | onWindowDetected rule => exact changesOnly_window rule
    | bind mode binding => exact (manager.changesOnly_bind mode binding).1
    | unbind mode description => exact (manager.changesOnly_unbind mode description).1
    | activate mode => exact changesOnly_activate mode

/-! ### What only grows -/

/-- Lists that are only ever added to: what commands are registered for, and the record of the host. -/
inductive Ledger where
  | focusCommands
  | monitorCommands
  | windowRules
  | executed

namespace Ledger

def Entry : Ledger → Type
  | focusCommands | monitorCommands => Command
  | windowRules => WindowRule
  | executed => Execution

def content : (ledger : Ledger) → Manager → List ledger.Entry
  | focusCommands, manager => manager.config.onFocusChanged
  | monitorCommands, manager => manager.config.onMonitorChanged
  | windowRules, manager => manager.config.onWindowDetected
  | executed, manager => manager.host.executed

/-- What an order adds. -/
def added : (ledger : Ledger) → Order → List ledger.Entry
  | focusCommands, .change (.onFocusChanged commands) => commands
  | monitorCommands, .change (.onMonitorChanged commands) => commands
  | windowRules, .change (.onWindowDetected rule) => [rule]
  | executed, .execute command env => [⟨command, env⟩]
  | _, _ => []

theorem content_follow (ledger : Ledger) (manager : Manager) (order : Order) :
    ledger.content (manager.follow order) = ledger.content manager ++ ledger.added order := by
  have kept : ledger.added order = [] → ledger.content (manager.follow order) = ledger.content manager →
      ledger.content (manager.follow order) = ledger.content manager ++ ledger.added order := by
    intro none same
    rw [none, same, List.append_nil]
  have only : manager.ChangesOnly order.part (manager.follow order) := manager.changesOnly_follow order
  cases order with
  | execute command env => cases ledger <;> first | rfl | exact kept rfl rfl
  | change wanted =>
    cases ledger with
    | focusCommands =>
      cases wanted with
      | onFocusChanged commands => rfl
      | _ => exact kept rfl (only.focusCommands nofun)
    | monitorCommands =>
      cases wanted with
      | onMonitorChanged commands => rfl
      | _ => exact kept rfl (only.monitorCommands nofun)
    | windowRules =>
      cases wanted with
      | onWindowDetected rule => rfl
      | _ => exact kept rfl (only.windowRules nofun)
    | executed =>
      have apart : (Order.change wanted).part ≠ .executed := by cases wanted <;> nofun
      exact kept (by cases wanted <;> rfl) (only.executed apart)

/-- Nothing is ever taken away, and what is new comes last. -/
theorem content_foldl (ledger : Ledger) (manager : Manager) (orders : List Order) :
    ledger.content (orders.foldl Manager.follow manager) = ledger.content manager ++ orders.flatMap ledger.added := by
  induction orders generalizing manager with
  | nil => exact (List.append_nil _).symm
  | cons order rest ih => rw [List.foldl_cons, ih, content_follow, List.flatMap_cons, List.append_assoc]

end Ledger

/-! ### Runs -/

namespace Bridge
open Script

variable {α : Type} {runner : Runner} {called : Task → Scene → List Order}

def BridgeRequest.orders : BridgeRequest α → List Order
  | .change wanted => [.change wanted]
  | .runCommand command env => [.execute command env]
  | _ => []

/-- The orders that a program gives; `called` says which ones tasks give. -/
def ordersOf (runner : Runner) (called : Task → Scene → List Order) : Program BridgeRequest α → Scene → List Order
  | .pure _, _ => []
  | .request request next, scene =>
    request.orders ++ ordersOf runner called (next (scene.answer request).1) (scene.answer request).2
  | .run task next, scene =>
    match runner task scene with
    | none => []
    | some (outcome, after) => called task scene ++ ordersOf runner called (next outcome) after

/-- The orders that a task gives, with those of all calls inside of it. -/
def taskOrders (code : HostCode) : (budget : Nat) → Task → Scene → List Order
  | 0, _, _ => []
  | budget + 1, task, scene =>
    ordersOf (perform code budget) (taskOrders code budget) (stepOf code task) scene ++
      match interpret (perform code budget) (stepOf code task) scene with
      | some (.again task, after) => taskOrders code budget task after
      | _ => []

/-- The orders that something done in a context gives. -/
def Act.orders (act : Act α) (runtime : Runtime) (scene : Scene) : List Order :=
  ordersOf runtime.perform (taskOrders runtime.code runtime.budget) (act .host).run scene

theorem Scene.manager_answer (scene : Scene) (request : BridgeRequest α) :
    (scene.answer request).2.manager = request.orders.foldl Manager.follow scene.manager := by
  cases request <;> rfl

theorem manager_interpret {program : Program BridgeRequest α} {scene after : Scene} {value : α}
    (tasks : ∀ {task scene outcome after}, runner task scene = some (outcome, after) →
      after.manager = (called task scene).foldl Manager.follow scene.manager)
    (ran : interpret runner program scene = some (value, after)) :
    after.manager = (ordersOf runner called program scene).foldl Manager.follow scene.manager := by
  induction program generalizing scene with
  | pure value =>
    cases ran
    rfl
  | request request next ih =>
    rw [ordersOf, List.foldl_append, ← scene.manager_answer request]
    exact ih _ ran
  | run task next ih =>
    rw [interpret_run, Option.bind_eq_some_iff] at ran
    obtain ⟨⟨outcome, between⟩, performed, ran⟩ := ran
    rw [ordersOf, performed, List.foldl_append, ← tasks performed]
    exact ih _ ran

theorem manager_perform {code : HostCode} {budget : Nat} {task : Task} {scene after : Scene} {outcome : Outcome}
    (ran : perform code budget task scene = some (outcome, after)) :
    after.manager = (taskOrders code budget task scene).foldl Manager.follow scene.manager := by
  induction budget generalizing task scene outcome after with
  | zero => cases ran
  | succ budget ih =>
    rw [perform_succ] at ran
    rw [taskOrders, List.foldl_append]
    split at ran
    · cases ran
    · cases ran
    next stepped =>
      cases ran
      rw [stepped, ← manager_interpret ih stepped]
      rfl
    next stepped =>
      rw [stepped, ← manager_interpret ih stepped]
      exact ih ran

theorem Act.manager_exec {act : Act α} {runtime : Runtime} {scene after : Scene} {result : Except Error α}
    (ran : act.exec runtime.perform .host scene = some (result, after)) :
    after.manager = (act.orders runtime scene).foldl Manager.follow scene.manager := manager_interpret manager_perform ran

end Bridge

namespace World

variable {α : Type} {world after : World} {context : ContextId} {act : Act α} {runtime : Runtime} {result : Except Error α}

/-- The orders that something done in a context of a world gives. -/
def orders (world : World) (context : ContextId) (act : Act α) (runtime : Runtime) : List Order :=
  match world.interpreter? context with
  | none => []
  | some interpreter => act.orders runtime (world.scene context interpreter)

theorem manager_run (ran : world.run context act runtime = some (result, after)) :
    after.manager = (world.orders context act runtime).foldl Manager.follow world.manager := by
  rw [orders]
  obtain ⟨closed, -, rfl⟩ | ⟨interpreter, scene, known, performed, rfl⟩ := run_cases ran
  · rw [closed]
    rfl
  · rw [known]
    exact Act.manager_exec performed

end World
end TileScript
