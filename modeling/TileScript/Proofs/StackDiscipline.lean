import TileScript.Proofs.StackTasks
import TileScript.Proofs.Worlds

/-! The host finds its value stack as it left it after everything it does, however that ends and however
deep scripts and native functions call one another. -/

namespace TileScript.Bridge
open Script Attempt

/-- What the host and its code do in a context. -/
inductive Operation : Type → Type 1 where
  | load (name text : String) : Operation Handle
  | loadFile (path : String) (file : ScriptFile) : Operation Handle
  | setGlobal (name : String) (value : Value) : Operation Unit
  | getGlobal (name : String) : Operation Value
  | newTable : Operation Handle
  | get (table : Handle) (key : Value) : Operation Value
  | set (table : Handle) (key value : Value) : Operation Unit
  | getField (table : Handle) (name : String) : Operation Value
  | setField (table : Handle) (name : String) (value : Value) : Operation Unit
  | fieldKind (table : Handle) (name : String) : Operation Kind
  | call (function : Handle) (arguments : List Value) : Operation CallResult
  | createFunction (native : Native) : Operation Handle
  | checkArguments (arguments : Arguments) (signature : List Argument) : Operation (Except String Unit)
  | runScript (function : Handle) (env : CommandEnv) : Operation Bool
  | askScript {α : Type} [Castable α] (function : Handle) (id : Value) (asked : Monitor) : Operation α

namespace Operation

def act {α : Type} : Operation α → Act α
  | .load name text => Function.ofChunk name text
  | .loadFile path file => file.load path
  | .setGlobal name value => Global.set name value
  | .getGlobal name => Global.get name
  | .newTable => Table.create
  | .get table key => Table.get table key
  | .set table key value => Table.set table key value
  | .getField table name => Table.getField table name
  | .setField table name value => Table.setField table name value
  | .fieldKind table name => Table.fieldKind table name
  | .call function arguments => Function.call function arguments
  | .createFunction native => Function.ofNative native
  | .checkArguments arguments signature => observe (Check.arguments arguments signature)
  | .runScript function env => Command.runScript function env
  | @askScript _ _ function id asked => Dynamic.ask function id asked

end Operation

/-- What is made of such operations, and of requests that are not about the stack. -/
inductive Disciplined : {ε α : Type} → Attempt ε α → Prop where
  | pure {ε α : Type} (value : α) : Disciplined (pure value : Attempt ε α)
  | throw {ε α : Type} (error : ε) : Disciplined (throw error : Attempt ε α)
  | ask {ε α : Type} (request : BridgeRequest α) (spares : request.SparesStack) :
    Disciplined (ask request : Attempt ε α)
  | operation {α : Type} (operation : Operation α) : Disciplined operation.act
  | bind {ε α β : Type} {attempt : Attempt ε α} {next : α → Attempt ε β} (first : Disciplined attempt)
    (second : ∀ value, Disciplined (next value)) : Disciplined (attempt >>= next)
  | observe {ε δ α : Type} {attempt : Attempt ε α} (observed : Disciplined attempt) :
    Disciplined (observe attempt : Attempt δ (Except ε α))
  | mapError {ε δ α : Type} {attempt : Attempt ε α} (change : ε → δ) (changed : Disciplined attempt) :
    Disciplined (attempt.mapError change)

/-- That the code of the host touches the stack through operations alone. -/
def HostCode.IsDisciplined (code : HostCode) : Prop :=
  ∀ number captured arguments, Disciplined (code.run number captured arguments)

namespace StackLogic

variable {logic : StackLogic} {α ε : Type}

theorem neutral_envTable (env : CommandEnv) : logic.Neutral env.toTable :=
  neutral_create.bind fun table => (neutral_setFields table _).bind fun _ => neutral_pure table

theorem neutral_monitorTable (monitor : Monitor) : logic.Neutral monitor.toTable :=
  neutral_create.bind fun table => (neutral_setFields table _).bind fun _ => neutral_pure table

theorem neutral_runScript (function : Handle) (env : CommandEnv) : logic.Neutral (Command.runScript function env) :=
  (neutral_envTable env).bind fun _ => (neutral_functionCall _ _).bind fun _ => neutral_pure _

theorem neutral_askScript [Castable α] (function : Handle) (id : Value) (asked : Monitor) :
    logic.Neutral (Dynamic.ask function id asked : Act α) := by
  refine (neutral_monitorTable asked).bind fun info => (neutral_functionCall _ _).bind fun result => ?_
  split
  · exact neutral_throw _
  · exact neutral_throw _
  · split
    · exact neutral_pure _
    · exact neutral_throw _

theorem neutral_source (text : String) : logic.Neutral (Engine.source text) :=
  (neutral_ofChunk _ _).bind fun chunk => (neutral_functionCall chunk _).bind fun _ => neutral_settle _

theorem neutral_initScript (path : String) (file : ScriptFile) : logic.Neutral (Engine.initScript path file) := by
  have run : logic.Neutral (do
      let chunk ← file.load path
      let _ ← settle ((← Function.call chunk []).values.mapError Error.runtime) : Act Unit) :=
    ((neutral_settle _).bind fun _ => neutral_ofChunk _ _).bind fun chunk => (neutral_functionCall chunk _).bind fun _ =>
      (neutral_settle _).bind fun _ => neutral_pure _
  cases file with
  | missing => exact neutral_pure ()
  | directory | unreadable _ | bytes _ => exact run

/-- What tables do when they are told of the end of their context is done like everything else. -/
theorem neutral_finish : logic.Neutral Act.finish :=
  (neutral_quiet (by trivial)).bind fun _ => (neutral_evaluate _).bind fun _ => (neutral_quiet (by trivial)).bind fun _ =>
    (neutral_evaluate _).bind fun _ => neutral_pure ()

theorem neutral_operation (natives : ∀ native, logic.Permits (.newNative native)) (operation : Operation α) :
    logic.Neutral operation.act := by
  cases operation with
  | load name text => exact neutral_ofChunk name text
  | loadFile path file => exact (neutral_settle _).bind fun _ => neutral_ofChunk _ _
  | setGlobal name value => exact neutral_setGlobal name value
  | getGlobal name => exact neutral_getGlobal name
  | newTable => exact neutral_create
  | get table key => exact neutral_get table key
  | set table key value => exact neutral_set table key value
  | getField table name => exact neutral_getField table name
  | setField table name value => exact neutral_setField table name value
  | fieldKind table name => exact neutral_fieldKind table name
  | call function arguments => exact neutral_functionCall function arguments
  | createFunction native => exact neutral_ofNative (natives native)
  | checkArguments arguments signature => exact (neutral_checkArguments arguments signature).observe
  | runScript function env => exact neutral_runScript function env
  | askScript function id asked => exact neutral_askScript function id asked

theorem neutral_disciplined (every : ∀ {β : Type} (request : BridgeRequest β), logic.Permits request)
    {attempt : Attempt ε α} (disciplined : Disciplined attempt) : logic.Neutral attempt := by
  induction disciplined with
  | pure value => exact neutral_pure value
  | throw error => exact neutral_throw error
  | ask request spares => exact neutral_ask (every request) spares
  | operation operation => exact neutral_operation (fun native => every _) operation
  | bind _ _ first second => exact first.bind second
  | observe _ observed => exact observed.observe
  | mapError change _ changed => exact changed.mapError change

end StackLogic

/-- The stack alone, without any invariant beside it. -/
def Custody.none : Custody where
  holds _ := True
  grows _ _ := True
  refl _ := trivial
  trans _ _ := trivial
  quiet _ _ _ _ := ⟨trivial, trivial⟩
  staged _ _ _ := ⟨trivial, trivial⟩

theorem Custody.none_entrusts {code : HostCode} (disciplined : code.IsDisciplined) : Custody.none.Entrusts code := by
  intro runner task scene place native _ _ arguments
  have every : ∀ {β : Type} (request : BridgeRequest β),
      (StackLogic.mk .none runner task).Permits request := fun _ _ _ => ⟨trivial, trivial⟩
  let handling : (StackLogic.mk .none runner task).Handling :=
    { isFit := fun _ _ => True, stable := fun _ _ _ _ _ => trivial,
      pinned := fun function => ((StackLogic.neutral_pin _ _).gives fun _ _ => trivial).weaken fun _ => trivial,
      changed := fun wanted _ => (StackLogic.neutral_ask (every (.change wanted)) trivial).always }
  exact StackLogic.neutral_body arguments (fun function _ => handling.neutral_api code.patterns function arguments)
    fun number captured _ => StackLogic.neutral_disciplined every (disciplined number captured arguments)

/-- The logic of stacks for the runs of a runtime. -/
def Runtime.stacks (runtime : Runtime) (disciplined : runtime.code.IsDisciplined) : StackLogic :=
  Custody.none.logic runtime (Custody.none_entrusts disciplined)

end TileScript.Bridge

namespace TileScript
open Bridge

/-- What the host has staged in a context, if that is open. -/
def World.stack? (world : World) (context : ContextId) : Option (List Script.Raw) :=
  (world.interpreter? context).map (·.stack)

/-- What the host does with a world whose contexts stay open. -/
inductive Use : Type → Type 1 where
  | within {α : Type} (context : ContextId) (operation : Operation α) : Use α
  | runCommand (command : Command) (env : CommandEnv) : Use Bool
  | evaluate {α : Type} [Castable α] (value : Dynamic α) (asked : Monitor) (monitors : List Monitor) : Use α
  | runSource (engine : Engine) (text : String) : Use (List Value)
  | runInitFile (engine : Engine) (file : ScriptFile) : Use Unit
  | focusChanged (env : CommandEnv) : Use Unit
  | monitorChanged (env : CommandEnv) : Use Unit
  | windowDetected (window : DetectedWindow) (startup : Bool) : Use Unit
  | gap (position : GapPosition) (asked : Monitor) (monitors : List Monitor) : Use Int

def Use.live {α : Type} : Use α → Live α
  | .within context operation => Live.within context operation.act
  | .runCommand command env => command.run env
  | @evaluate _ _ value asked monitors => value.evaluate asked monitors
  | .runSource engine text => engine.runSource text
  | .runInitFile engine file => engine.runInitFile file
  | .focusChanged env => Engine.focusChanged env
  | .monitorChanged env => Engine.monitorChanged env
  | .windowDetected window startup => Engine.windowDetected window startup
  | .gap position asked monitors => Engine.gap position asked monitors

/-- The stacks of all contexts. -/
def Live.stackContinuity (runtime : Runtime) : Continuity where
  runtime := runtime
  kept before after := ∀ context, after.stack? context = before.stack? context
  refl _ _ := rfl
  trans early late context := (late context).trans (early context)
  execute _ _ _ _ := rfl

namespace Live.Continuity

variable {α : Type} {continuity : Continuity}

/-- What is kept by operations, by chunks and by init scripts is kept by all that the host does. -/
theorem keeps_use (operation : ∀ {β : Type} context (operation : Operation β), continuity.Keeps (Live.within context operation.act))
    (source : ∀ engine text, continuity.Keeps (Engine.runSource engine text))
    (initFile : ∀ engine file, continuity.Keeps (Engine.runInitFile engine file)) (use : Use α) : continuity.Keeps use.live := by
  have script : ∀ env function, continuity.Keeps (Live.within function.context (Command.runScript function env)) :=
    fun env function => operation function.context (.runScript function env)
  have ask : ∀ {β : Type} [Castable β] (asked : Monitor) (function : Handle) (id : Value),
      continuity.Keeps (Live.within function.context (Dynamic.ask function id asked : Act β)) := by
    intro β castable asked function id
    exact operation function.context (.askScript function id asked : Operation β)
  cases use with
  | within context operated => exact operation context operated
  | runCommand command env => exact keeps_command (script env) command
  | evaluate value asked monitors => exact keeps_evaluate (ask asked) value monitors
  | runSource engine text => exact source engine text
  | runInitFile engine file => exact initFile engine file
  | focusChanged env => exact keeps_focusChanged (script env)
  | monitorChanged env => exact keeps_monitorChanged (script env)
  | windowDetected window startup => exact keeps_windowDetected (script _) startup
  | gap position asked monitors => exact keeps_gap (ask asked) position monitors

variable {logic : StackLogic}
  (within : ∀ {β : Type} (context : ContextId) {act : Act β}, logic.Neutral act → continuity.Keeps (Live.within context act))
include within

theorem keeps_initFile (engine : Engine) (file : ScriptFile) : continuity.Keeps (engine.runInitFile file) := by
  cases file with
  | missing => exact keeps_pure ()
  | directory | unreadable _ | bytes _ => exact within _ (StackLogic.neutral_initScript engine.initPath _)

/-- What is kept by all that leaves the stack of a context as it was is kept by all that the host does. -/
theorem keeps_live (natives : ∀ native, logic.Permits (.newNative native)) (use : Use α) : continuity.Keeps use.live :=
  keeps_use (fun context operation => within context (StackLogic.neutral_operation natives operation))
    (fun _ text => within _ (StackLogic.neutral_source text)) (keeps_initFile within) use

end Live.Continuity

theorem Live.keeps_stacks {α : Type} {runtime : Runtime} (disciplined : runtime.code.IsDisciplined) (context : ContextId)
    {act : Act α} (neutral : (runtime.stacks disciplined).Neutral act) :
    (stackContinuity runtime).Keeps (Live.within context act) := by
  intro world result after ran other
  obtain ⟨-, -, rfl⟩ | ⟨interpreter, scene, known, performed, rfl⟩ := World.run_cases ran
  · rfl
  · have same : scene.interpreter.stack = interpreter.stack := (neutral .host _ result scene trivial performed).2
    rw [World.stack?, World.stack?, World.interpreter?_leave scene other known]
    split
    next here =>
      subst here
      rw [known, Option.map_some, Option.map_some, same]
    next => rfl

/-- Whatever the host does leaves every stack as it was, if its code uses the stack in no other way. By how
much the stack has grown inside a call is the number of values that the callee gave back. -/
theorem stack_discipline (runtime : Runtime) (disciplined : runtime.code.IsDisciplined) :
    (∀ {α : Type} (operation : Operation α) site scene result after,
      operation.act.exec runtime.perform site scene = some (result, after) → after.stack = scene.stack) ∧
    (∀ {α : Type} (use : Use α) world result after, use.live.exec runtime world = some (result, after) →
      ∀ context, after.stack? context = world.stack? context) ∧
    ∀ function arguments site scene grown,
      (Function.invoke function arguments).exec runtime.perform site scene = some (.ok true, grown) →
      ∃ callee values results returned, scene.resolve function = .ok (.function callee) ∧
        arguments.mapM scene.rawOf = .ok values ∧
        runtime.perform (.call (.function callee) values (Attempt.described site).nested) scene =
          some (.ok results, returned) ∧
        grown.stack = results.reverse ++ scene.stack ∧ scene.stack.length ≤ grown.stack.length ∧
        grown.stack.length - scene.stack.length = results.length := by
  refine ⟨?_, ?_, ?_⟩
  · intro α operation site scene result after ran
    have neutral : (runtime.stacks disciplined).Neutral operation.act :=
      StackLogic.neutral_operation (fun _ _ _ => ⟨trivial, trivial⟩) operation
    exact (neutral site scene result after trivial ran).2
  · intro α use world result after ran
    exact Live.Continuity.keeps_live (Live.keeps_stacks disciplined) (fun _ _ _ => ⟨trivial, trivial⟩) use world result after ran
  · intro function arguments site scene grown ran
    obtain ⟨callee, values, results, returned, resolved, known, called, rfl⟩ := Function.invoke_ok ran
    have same : returned.stack = scene.stack := ((runtime.stacks disciplined).task trivial called).2
    refine ⟨callee, values, results, returned, resolved, known, called, ?_, ?_, ?_⟩
    · rw [Scene.stack_setStack, same]
    · simp [same]
    · simp [same]

/-- Code of the host that passes a call on to a function it has captured. -/
def relay : HostCode where
  patterns := .standard
  run _ captured _ :=
    match captured with
    | [.function function] => Function.call function []
    | _ => return .none

theorem relay_isDisciplined : relay.IsDisciplined := by
  intro number captured arguments
  simp only [relay]
  split
  next function => exact .operation (.call function [])
  next => exact .pure _

/-- A context with one value staged, where calls of the first function are passed on to the second one. -/
def relayed : Interpreter where
  heap :=
    { tables := #[], cells := #[], numbers := 0, printed := .empty, awaiting := [],
      functions := #[.native ⟨"relay", none, false, .host 0 [.function ⟨⟨⟨0⟩, 1⟩, 1⟩]⟩,
        .native ⟨"pair", none, false, .reply [.boolean true, .nil]⟩] }
  stack := [.integer 7]
  registry := ⟨#[.function ⟨0⟩, .function ⟨1⟩], [], [⟨1, 1⟩, ⟨0, 0⟩], 2⟩

theorem stack_discipline_relay :
    relay.IsDisciplined ∧
    (∃ result after, (Operation.call ⟨⟨⟨0⟩, 0⟩, 0⟩ []).act.exec (Runtime.mk relay 5).perform .host
        ⟨⟨0⟩, relayed, .initial .blank, []⟩ = some (result, after) ∧ after.stack = [.integer 7]) ∧
    (∃ result after, (Use.within ⟨0⟩ (.call ⟨⟨⟨0⟩, 0⟩, 0⟩ [])).live.exec ⟨relay, 5⟩
        ⟨#[some relayed], .initial .blank, []⟩ = some (result, after) ∧ after.stack? ⟨0⟩ = some [.integer 7]) ∧
    ∃ grown, (Function.invoke ⟨⟨⟨0⟩, 0⟩, 0⟩ []).exec (Runtime.mk relay 5).perform .host
        ⟨⟨0⟩, relayed, .initial .blank, []⟩ = some (.ok true, grown) ∧
      ∃ results : List Script.Raw, grown.stack = results.reverse ++ [.integer 7] ∧
        grown.stack.length - 1 = results.length := by
  obtain ⟨operations, uses, calls⟩ := stack_discipline ⟨relay, 5⟩ relay_isDisciplined
  refine ⟨relay_isDisciplined, ?_, ?_, ?_⟩
  · have ran : ∃ result after, (Operation.call ⟨⟨⟨0⟩, 0⟩, 0⟩ []).act.exec (Runtime.mk relay 5).perform .host
        ⟨⟨0⟩, relayed, .initial .blank, []⟩ = some (result, after) := ⟨_, _, rfl⟩
    obtain ⟨result, after, ran⟩ := ran
    exact ⟨result, after, ran, operations _ _ _ _ _ ran⟩
  · have ran : ∃ result after, (Use.within ⟨0⟩ (.call ⟨⟨⟨0⟩, 0⟩, 0⟩ [])).live.exec ⟨relay, 5⟩
        ⟨#[some relayed], .initial .blank, []⟩ = some (result, after) := ⟨_, _, rfl⟩
    obtain ⟨result, after, ran⟩ := ran
    exact ⟨result, after, ran, uses _ _ _ _ ran ⟨0⟩⟩
  · have ran : ∃ grown, (Function.invoke ⟨⟨⟨0⟩, 0⟩, 0⟩ []).exec (Runtime.mk relay 5).perform .host
        ⟨⟨0⟩, relayed, .initial .blank, []⟩ = some (.ok true, grown) := ⟨_, rfl⟩
    obtain ⟨grown, ran⟩ := ran
    obtain ⟨_, _, results, _, _, _, _, left, _, count⟩ := calls _ _ _ _ _ ran
    exact ⟨grown, ran, results, left, count⟩

end TileScript
