import TileScript.Proofs.CurrentHandles
import TileScript.Proofs.Orders

/-! What an event runs: the commands that were registered when it came, in order, whatever becomes of each of
them and whatever they register meanwhile. -/

namespace TileScript
open Bridge

namespace Command

variable {runtime : Runtime} {env : CommandEnv} {world after : World}

/-- The orders that a command gives when it is run. -/
def orders (command : Command) (runtime : Runtime) (env : CommandEnv) (world : World) : List Order :=
  match command with
  | .host command => [.execute command env]
  | .script function => world.orders function.context (runScript function env) runtime

theorem manager_run {command : Command} {outcome : Except Error Bool}
    (ran : (command.run env).exec runtime world = some (outcome, after)) :
    after.manager = (command.orders runtime env world).foldl Manager.follow world.manager := by
  cases command with
  | host command =>
    cases ran
    rfl
  | script function => exact World.manager_run ran

/-- A command that was run, with what became of it and the orders it gave. -/
structure Performance where
  command : Command
  outcome : Except Error Bool
  orders : List Order

/-- Commands were run one after the other, each in the world that the one before has left. -/
inductive Ran (runtime : Runtime) (env : CommandEnv) : World → List Performance → World → Prop where
  | none (world : World) : Ran runtime env world [] world
  | next {world between after : World} {command : Command} {outcome : Except Error Bool} {rest : List Performance} :
    (command.run env).exec runtime world = some (outcome, between) → Ran runtime env between rest after →
    Ran runtime env world (⟨command, outcome, command.orders runtime env world⟩ :: rest) after

theorem Ran.manager {performed : List Performance} (ran : Ran runtime env world performed after) :
    after.manager = (performed.flatMap (·.orders)).foldl Manager.follow world.manager := by
  induction ran with
  | none world => rfl
  | next first _ ih =>
    have early := manager_run first
    rw [ih, early, List.flatMap_cons, List.foldl_append]

/-- Commands are run to the last one, and none of them has a say in whether the others are. -/
theorem exec_runAll_iff (commands : List Command) (result : Except Error Unit) :
    (runAll env commands).exec runtime world = some (result, after) ↔
      result = .ok () ∧ ∃ performed, performed.map (·.command) = commands ∧ Ran runtime env world performed after := by
  induction commands generalizing world with
  | nil =>
    constructor
    · intro ran
      cases ran
      exact ⟨rfl, [], rfl, .none _⟩
    · rintro ⟨rfl, performed, selected, ran⟩
      obtain rfl := List.map_eq_nil_iff.mp selected
      cases ran
      rfl
  | cons command rest ih =>
    rw [runAll, Live.exec_bind, Live.exec_observe, Option.bind_map, Option.bind_eq_some_iff]
    constructor
    · rintro ⟨⟨outcome, between⟩, first, later⟩
      obtain ⟨rfl, performed, selected, ran⟩ := ih.mp later
      refine ⟨rfl, _, ?_, .next first ran⟩
      rw [List.map_cons, selected]
    · rintro ⟨rfl, performed, selected, ran⟩
      cases ran with
      | none => cases selected
      | @next _ between _ _ outcome others first ran =>
        obtain ⟨rfl, later⟩ := List.cons.inj selected
        exact ⟨(outcome, between), first, ih.mpr ⟨rfl, others, later, ran⟩⟩

end Command

theorem Event.dispatch_eq (event : Event) (runtime : Runtime) (world : World) :
    event.dispatch.exec runtime world =
      (Command.runAll event.env (event.commands world.manager.config)).exec runtime world := by
  cases event <;> rfl

/-- An event runs the commands that the configuration selects when it comes, each of them once and in order,
and never fails. What they register meanwhile comes after what was registered before. -/
theorem dispatch_snapshot (runtime : Runtime) (event : Event) (world : World) (result : Except Error Unit) (after : World) :
    event.dispatch.exec runtime world = some (result, after) ↔ result = .ok () ∧
      ∃ performed, performed.map (·.command) = event.commands world.manager.config ∧
        Command.Ran runtime event.env world performed after ∧
        ∀ ledger : Ledger, ledger.content after.manager =
          ledger.content world.manager ++ (performed.flatMap (·.orders)).flatMap ledger.added := by
  rw [event.dispatch_eq, Command.exec_runAll_iff]
  refine and_congr_right fun _ => exists_congr fun performed => and_congr_right fun _ => ⟨fun ran => ⟨ran, fun ledger => ?_⟩, And.left⟩
  rw [ran.manager, ledger.content_foldl]

end TileScript
