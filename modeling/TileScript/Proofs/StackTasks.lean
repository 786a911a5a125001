import TileScript.Proofs.Chords
import TileScript.Proofs.StackActs
import TileScript.Proofs.StoredHandles
import TileScript.Bridge.Run

/-! What native functions and whole tasks leave on the stack. A call of a native function checks its
arguments, runs its body and passes the results on over the stack, and gives it back whichever of
these fails. -/

namespace TileScript.Bridge
open Script Attempt

namespace StackLogic

variable {logic : StackLogic} {α ε : Type}

/-! ### Arguments -/

theorem neutral_rawArgument (arguments : Arguments) (index : Int) : logic.Neutral (arguments.raw index) := by
  unfold Arguments.raw
  dsimp only
  split
  · exact neutral_pure _
  · exact neutral_throw _

theorem neutral_argument (arguments : Arguments) (index : Int) : logic.Neutral (arguments.value index) :=
  (neutral_rawArgument arguments index).bind neutral_ofRaw

theorem neutral_argumentKind (arguments : Arguments) (index : Int) : logic.Neutral (arguments.kind index) :=
  (neutral_rawArgument arguments index).bind neutral_kind

theorem neutral_collect (arguments : Arguments) : logic.Neutral arguments.collect := by
  induction arguments with
  | nil => exact neutral_pure _
  | cons value rest ih => exact (neutral_ofRaw value).bind fun _ => ih.bind fun _ => neutral_pure _

theorem neutral_select (arguments : Arguments) (positions : List Int) : logic.Neutral (arguments.select positions) := by
  induction positions with
  | nil => exact neutral_pure _
  | cons index rest ih => exact (neutral_argument arguments index).bind fun _ => ih.bind fun _ => neutral_pure _

theorem neutral_kinds (arguments : Arguments) (positions : List Int) : logic.Neutral (arguments.kinds positions) := by
  induction positions with
  | nil => exact neutral_pure _
  | cons index rest ih => exact (neutral_argumentKind arguments index).bind fun _ => ih.bind fun _ => neutral_pure _

/-! ### Checks -/

theorem neutral_answer {act : Act α} (neutral : logic.Neutral act) : logic.Neutral (Check.answer act) :=
  neutral.mapError _

theorem neutral_accepts {check : Check} (neutral : logic.Neutral check) : logic.Neutral (Check.accepts check) := by
  refine neutral.observe.bind fun outcome => ?_
  cases outcome with
  | ok _ | error _ => exact neutral_pure _

mutual

theorem neutral_checkTable (table : Handle) (path : String) (schema : TableSchema) :
    logic.Neutral (Check.table table path schema) := by
  cases schema with
  | mk fields =>
    unfold Check.table
    split
    · exact (neutral_checkFields table path fields).mapError _
    · exact neutral_checkFields table path fields

theorem neutral_checkFields (table : Handle) (path : String) (fields : List (String × Parameter)) :
    logic.Neutral (Check.checkFields table path fields) := by
  cases fields with
  | nil => exact neutral_pure _
  | cons field rest =>
    obtain ⟨name, parameter⟩ := field
    exact (neutral_checkField table name _ parameter).bind fun _ => neutral_checkFields table path rest

theorem neutral_checkField (table : Handle) (name field : String) (parameter : Parameter) :
    logic.Neutral (Check.checkField table name field parameter) := by
  cases parameter with
  | specific type => exact neutral_checkFieldType table name field type
  | oneOf types =>
    refine (neutral_anyFieldType table name field types).bind fun found => ?_
    split
    · exact neutral_pure _
    · exact (neutral_answer (neutral_fieldKind table name)).bind fun _ => neutral_throw _
  | any => exact neutral_pure _

theorem neutral_anyFieldType (table : Handle) (name field : String) (types : List ParameterType) :
    logic.Neutral (Check.anyFieldType table name field types) := by
  cases types with
  | nil => exact neutral_pure _
  | cons type rest =>
    refine (neutral_accepts (neutral_checkFieldType table name field type)).bind fun found => ?_
    split
    · exact neutral_pure _
    · exact neutral_anyFieldType table name field rest

theorem neutral_checkFieldType (parent : Handle) (name field : String) (type : ParameterType) :
    logic.Neutral (Check.checkFieldType parent name field type) := by
  cases type with
  | kind wanted =>
    refine (neutral_answer (neutral_fieldKind parent name)).bind fun actual => ?_
    split
    · exact neutral_throw _
    · exact neutral_pure _
  | schema schema =>
    refine (neutral_answer (neutral_getField parent name)).bind fun value => ?_
    split
    · exact neutral_checkTable _ field schema
    · exact neutral_throw _

end

theorem neutral_argumentType (value : Raw) (type : ParameterType) : logic.Neutral (Check.argumentType value type) := by
  cases type with
  | kind wanted =>
    refine (neutral_answer (neutral_kind value)).bind fun actual => ?_
    split
    · exact neutral_throw _
    · exact neutral_pure _
  | schema schema =>
    refine (neutral_answer (neutral_ofRaw value)).bind fun found => ?_
    split
    · exact neutral_checkTable _ "" schema
    · exact neutral_throw _

theorem neutral_anyArgumentType (value : Raw) (types : List ParameterType) :
    logic.Neutral (Check.anyArgumentType value types) := by
  induction types with
  | nil => exact neutral_pure _
  | cons type rest ih =>
    refine (neutral_accepts (neutral_argumentType value type)).bind fun found => ?_
    split
    · exact neutral_pure _
    · exact ih

theorem neutral_checkArgument (value : Raw) (parameter : Parameter) : logic.Neutral (Check.argument value parameter) := by
  cases parameter with
  | specific type => exact neutral_argumentType value type
  | oneOf types =>
    refine (neutral_anyArgumentType value types).bind fun found => ?_
    split
    · exact neutral_pure _
    · exact (neutral_answer (neutral_kind value)).bind fun _ => neutral_throw _
  | any => exact neutral_pure _

theorem neutral_takeMatching (parameter : Parameter) (isLast : Bool) (place : Nat) (values : List Raw) :
    logic.Neutral (Check.takeMatching parameter isLast place values) := by
  induction values generalizing place with
  | nil => exact neutral_pure _
  | cons value rest ih =>
    refine (neutral_checkArgument value parameter).observe.bind fun outcome => ?_
    cases outcome with
    | ok _ => exact ih (place + 1)
    | error message =>
      dsimp only
      split
      · exact neutral_throw _
      · exact neutral_pure _

theorem neutral_fromPlace (count place : Nat) (values : List Raw) (signature : List Argument) :
    logic.Neutral (Check.fromPlace count place values signature) := by
  induction signature generalizing place values with
  | nil =>
    unfold Check.fromPlace
    split
    · exact neutral_pure _
    · exact neutral_throw _
  | cons argument rest ih =>
    cases argument with
    | fixed parameter =>
      cases values with
      | nil => exact neutral_throw _
      | cons value values =>
        exact ((neutral_checkArgument value parameter).mapError _).bind fun _ => ih (place + 1) values
    | variadic parameter => exact (neutral_takeMatching parameter _ place values).bind fun left => ih left.1 left.2

theorem neutral_checkArguments (values : List Raw) (signature : List Argument) :
    logic.Neutral (Check.arguments values signature) := neutral_fromPlace _ _ _ _

/-! ### What the window manager offers -/

/-- What makes a handle fit to be put into the configuration. A handle that was just made is fit, and
changes that bring in fit handles and chords that were read are survived. -/
structure Handling (logic : StackLogic) where
  isFit : Handle → Scene → Prop
  stable : ∀ handle, logic.Stable (isFit handle)
  pinned : ∀ function : FunctionRef,
    logic.Gives (fun _ => True) (Act.pin (.function function) function.index) isFit
  changed : ∀ wanted, Change.IsWritten wanted → logic.NeutralWhen (fun scene => ∀ handle ∈ Change.handles wanted, isFit handle scene)
    (ask (.change wanted) : Act Unit)

theorem neutral_runCommand (arguments : Arguments) : logic.Neutral (ApiCall.runCommand arguments) := by
  refine (neutral_collect arguments).bind fun values => neutral_create.bind fun answer => ?_
  refine (neutral_quiet (by trivial)).bind fun host => ?_
  split
  · exact (neutral_quiet (by trivial)).bind fun output => (neutral_setFields _ _).bind fun _ => neutral_pure _
  · exact (neutral_setFields _ _).bind fun _ => neutral_pure _

theorem neutral_window? (arguments : Arguments) : logic.Neutral (ApiCall.window? arguments) :=
  (neutral_argument arguments 1).bind fun _ => (neutral_quiet (by trivial)).bind fun _ => neutral_pure _

theorem neutral_countWindows (arguments : Arguments) : logic.Neutral (ApiCall.countWindows arguments) :=
  (neutral_argument arguments 1).bind fun _ => (neutral_quiet (by trivial)).bind fun _ => neutral_pure _

theorem neutral_stringField (options : Handle) (name : String) : logic.Neutral (ApiCall.stringField options name) :=
  (neutral_getField options name).bind fun _ => neutral_pure _

theorem neutral_booleanField (options : Handle) (name : String) : logic.Neutral (ApiCall.booleanField options name) :=
  (neutral_getField options name).bind fun _ => neutral_pure _

theorem neutral_patternField (dialect : Pattern.Dialect) (options : Handle) (name : String) :
    logic.Neutral (ApiCall.patternField dialect options name) := by
  refine (neutral_stringField options name).bind fun text => ?_
  split
  · exact neutral_pure _
  · split
    · exact neutral_pure _
    · exact neutral_throw _

theorem neutral_matcher (dialect : Pattern.Dialect) (options : Handle) :
    logic.Neutral (ApiCall.matcher dialect options) :=
  (neutral_stringField _ _).bind fun _ => (neutral_patternField dialect _ _).bind fun _ =>
    (neutral_patternField dialect _ _).bind fun _ => (neutral_stringField _ _).bind fun _ =>
    (neutral_booleanField _ _).bind fun _ => neutral_pure _

namespace Handling

variable (handling : logic.Handling)
include handling

/-- Values whose handle is fit if they are functions. -/
def FitValue (value : Value) (scene : Scene) : Prop := ∀ handle, value = .function handle → handling.isFit handle scene

/-- Commands whose handles are fit. -/
def FitCommands (commands : List Command) (scene : Scene) : Prop :=
  ∀ command ∈ commands, ∀ handle ∈ command.handles, handling.isFit handle scene

theorem stable_fitValue (value : Value) : logic.Stable (handling.FitValue value) :=
  fun grown fit handle same => handling.stable handle grown (fit handle same)

theorem stable_fitCommands (commands : List Command) : logic.Stable (handling.FitCommands commands) :=
  fun grown fit command known handle inside => handling.stable handle grown (fit command known handle inside)

theorem gives_ofRaw (raw : Raw) : logic.Gives (fun _ => True) (Act.ofRaw raw) handling.FitValue := by
  cases raw with
  | function function =>
    refine (handling.pinned function).bind fun handle => gives_pure fun fit other same => ?_
    cases same
    exact fit
  | table table =>
    refine ((neutral_pin (.table table) table.index).gives fun _ _ => trivial).bind fun handle => gives_pure ?_
    intro scene start other same
    cases same
  | nil | boolean _ | integer _ | number _ | string _ =>
    refine gives_pure ?_
    intro scene start other same
    cases same
  | thread _ | file | failure _ _ => exact gives_throw _

theorem gives_argument (arguments : Arguments) (index : Int) :
    logic.Gives (fun _ => True) (arguments.value index) handling.FitValue :=
  ((neutral_rawArgument arguments index).gives fun _ _ => trivial).bind handling.gives_ofRaw

theorem gives_commands (arguments : Arguments) :
    logic.Gives (fun _ => True) arguments.commands handling.FitCommands := by
  induction arguments with
  | nil =>
    refine gives_pure ?_
    intro scene start command known
    cases known
  | cons raw rest ih =>
    refine (handling.gives_ofRaw raw).bind fun value => ?_
    refine Gives.bind ((neutral_quiet (by trivial)).gives (handling.stable_fitValue value)) fun host => ?_
    split
    · exact gives_throw _
    next command read =>
      have kept : logic.Gives (handling.FitValue value) (Arguments.commands rest) fun commands scene =>
          handling.FitValue value scene ∧ handling.FitCommands commands scene :=
        (ih.keep (handling.stable_fitValue value)).strengthen fun fit => ⟨fit, trivial⟩
      refine kept.bind fun commands => gives_pure ?_
      rintro scene ⟨fit, others⟩ known member handle inside
      rcases List.mem_cons.mp member with rfl | later
      · exact fit handle (Host.handles_commandOf read inside)
      · exact others known later handle inside

/-- A change is survived where everything it brings in is fit. -/
theorem neutral_change {pre : Scene → Prop} {wanted : Change} (written : wanted.IsWritten) (result : CallResult)
    (fit : ∀ scene, pre scene → ∀ handle ∈ wanted.handles, handling.isFit handle scene) :
    logic.NeutralWhen pre (do
      ask (.change wanted)
      return result : Act CallResult) := by
  intro site scene answer after holds start ran
  have changed : logic.NeutralWhen (fun scene => ∀ handle ∈ wanted.handles, handling.isFit handle scene) (do
      ask (.change wanted)
      return result : Act CallResult) := (handling.changed wanted written).bind fun _ => (neutral_pure result).always
  exact changed site scene answer after holds (fit scene start) ran

theorem neutral_setGap (arguments : Arguments) : logic.Neutral (ApiCall.setGap arguments) := by
  refine (neutral_argument arguments 1).bind fun id => (handling.gives_argument arguments 2).neutral_bind fun value => ?_
  dsimp only
  split
  · exact (neutral_pure _).always
  next position known =>
    refine handling.neutral_change (by trivial) _ fun scene fit handle member => ?_
    cases id with
    | number _ =>
      cases value with
      | function function =>
        cases List.mem_singleton.mp member
        exact fit _ rfl
      | number _ | string _ | boolean _ | nil | table _ => cases member
    | string _ | boolean _ | nil | table _ | function _ => cases known

theorem fit_brought {commands : List Command} {scene : Scene} (fit : handling.FitCommands commands scene) :
    ∀ handle ∈ commands.flatMap Command.handles, handling.isFit handle scene := by
  intro handle member
  obtain ⟨command, known, inside⟩ := List.mem_flatMap.mp member
  exact fit command known handle inside

theorem neutral_addWindowRule (dialect : Pattern.Dialect) (arguments : Arguments) :
    logic.Neutral (ApiCall.addWindowRule dialect arguments) := by
  refine (neutral_argument arguments 1).bind fun options => ?_
  split
  next options =>
    refine (handling.gives_commands _).neutral_bind fun commands => ?_
    refine Gives.rest ((neutral_matcher dialect options).gives (handling.stable_fitCommands commands)) fun matcher => ?_
    refine Gives.rest ((neutral_booleanField options _).gives (handling.stable_fitCommands commands)) fun further => ?_
    exact handling.neutral_change (by trivial) _ fun scene fit => handling.fit_brought fit
  next => exact neutral_pure _

theorem neutral_changeSetting (name : SettingName) (arguments : Arguments) :
    logic.Neutral (ApiCall.change name arguments) := by
  refine (handling.gives_argument arguments 1).neutral_bind fun value => ?_
  split
  · exact (neutral_pure _).always
  · exact handling.neutral_change (by trivial) _ fun scene fit handle member => by cases member

theorem neutral_bindChord (arguments : Arguments) : logic.Neutral (ApiCall.bindChord arguments) := by
  refine (neutral_argument arguments 1).bind fun mode => (neutral_argument arguments 2).bind fun key => ?_
  refine (handling.gives_commands _).neutral_bind fun commands => ?_
  split
  · exact (neutral_pure _).always
  next chord read =>
    exact handling.neutral_change (by exact ⟨_, read⟩) _ fun scene fit => handling.fit_brought fit

theorem neutral_unbindChord (arguments : Arguments) : logic.Neutral (ApiCall.unbindChord arguments) :=
  (neutral_argument arguments 1).bind fun _ => (handling.gives_argument arguments 2).neutral_bind fun _ =>
    handling.neutral_change (by trivial) _ fun scene fit handle member => by cases member

theorem neutral_api (dialect : Pattern.Dialect) (function : Api) (arguments : Arguments) :
    logic.Neutral (function.run dialect arguments) := by
  cases function with
  | command => exact neutral_runCommand arguments
  | activateMode =>
    exact (handling.gives_argument arguments 1).neutral_bind fun mode =>
      handling.neutral_change (by trivial) _ fun scene fit handle member => by cases member
  | windowTitle | windowAppName => exact (neutral_window? arguments).bind fun _ => neutral_pure _
  | workspaceWindowCount => exact neutral_countWindows arguments
  | setGap => exact handling.neutral_setGap arguments
  | onFocusChanged | onMonitorChanged =>
    exact (handling.gives_commands arguments).neutral_bind fun commands =>
      handling.neutral_change (by trivial) _ fun scene fit => handling.fit_brought fit
  | onWindowDetected => exact handling.neutral_addWindowRule dialect arguments
  | setting name => exact handling.neutral_changeSetting name arguments
  | bind => exact handling.neutral_bindChord arguments
  | unbind => exact handling.neutral_unbindChord arguments

end Handling

/-! ### Native functions -/

theorem neutral_applyFirst (arguments : Arguments) : logic.Neutral (NativeBody.applyFirst arguments) := by
  refine (neutral_collect arguments).bind fun values => ?_
  split
  · exact neutral_functionCall _ _
  · exact neutral_pure _

theorem neutral_body {code : HostCode} {body : NativeBody} (arguments : Arguments)
    (api : ∀ function, body = .api function → logic.Neutral (function.run code.patterns arguments))
    (host : ∀ number captured, body = .host number captured → logic.Neutral (code.run number captured arguments)) :
    logic.Neutral (body.run code arguments) := by
  cases body with
  | reply _ | refuse _ | count | silent => exact neutral_pure _
  | fail error => exact neutral_throw error
  | select positions => exact (neutral_select arguments positions).bind fun _ => neutral_pure _
  | kinds positions => exact (neutral_kinds arguments positions).bind fun _ => neutral_pure _
  | collect => exact (neutral_collect arguments).bind fun _ => neutral_pure _
  | apply => exact neutral_applyFirst arguments
  | api function => exact api function rfl
  | host number captured => exact host number captured rfl

/-- The results are staged, or none of them. -/
theorem pushResults_leaves (pushed : Nat) (values : List Value) :
    logic.Leaves (Native.pushResults pushed values) fun before result after =>
      match result with
      | .ok _ => ∃ staged, staged.length = values.length ∧ after = staged ++ before
      | .error _ => pushed ≤ before.length → after = before.drop pushed := by
  induction values generalizing pushed with
  | nil => exact leaves_pure fun before => ⟨[], rfl, rfl⟩
  | cons value rest ih =>
    refine Leaves.handle (push_pushes value) fun observed => ?_
    cases observed with
    | ok _ =>
      refine (ih (pushed + 1)).weaken ?_
      rintro middle result after left before ⟨top, rfl⟩
      cases result with
      | ok _ =>
        obtain ⟨staged, count, rfl⟩ := left
        exact ⟨staged ++ [top], by simp [count], by simp⟩
      | error _ => exact fun enough => left (Nat.succ_le_succ enough)
    | error error =>
      refine Leaves.handle (remove_leaves pushed) fun removed => leaves_throw ?_
      rintro between middle left before rfl enough
      rw [if_neg (by omega)] at left
      exact left.2

theorem neutral_pass (result : CallResult) : logic.Neutral (Native.pass result) := by
  unfold Native.pass
  split
  · exact neutral_throw _
  next values _ =>
    refine (pushResults_leaves 0 values).follow (fun _ => (takeTop_leaves values.length).mapError ?_) ?_
    · rintro middle result after taken before ⟨staged, count, rfl⟩
      rw [taken (by simp [count]), ← count, List.drop_left]
    · intro before error after dropped
      exact dropped (Nat.zero_le _)

theorem neutral_receive (native : Native) (arguments : Arguments) : logic.Neutral (native.receive arguments) := by
  have noted : logic.Neutral (do
      if native.isTraced then
        let _ ← arguments.collect.mapError Error.raised
        ask (.note native.name arguments) : Attempt String Unit) := by
    split
    · exact ((neutral_collect arguments).mapError _).bind fun _ => neutral_quiet (by trivial)
    · exact neutral_pure ()
  unfold Native.receive
  cases native.schema with
  | some signature => exact (neutral_checkArguments arguments signature).bind fun _ => noted
  | none => exact noted

theorem neutral_nativeCall {code : HostCode} {native : Native} {arguments : Arguments}
    (body : logic.Neutral (native.body.run code arguments)) : logic.Neutral (native.call code arguments) :=
  (neutral_receive native arguments).bind fun _ => (body.mapError _).bind neutral_pass

theorem neutralProgram_native {code : HostCode} {native : Native} {arguments : Arguments} (site : Site)
    (body : logic.Neutral (native.body.run code arguments)) :
    logic.NeutralProgram (native.run code arguments site) := by
  refine ((neutral_nativeCall body).program _).bind fun result => ?_
  cases result with
  | ok results => exact neutralProgram_pure _
  | error message => exact neutralProgram_ofEval _

/-! ### Tasks -/

/-- One step of a task, if every native function that it may meet leaves the stack alone. -/
theorem neutralProgram_step {code : HostCode} (task : Task)
    (natives : ∀ (scene : Scene) (place : Nat) (native : Native), logic.holds scene →
      scene.interpreter.heap.functions[place]? = some (.native native) →
      ∀ arguments, logic.Neutral (native.body.run code arguments)) :
    logic.NeutralProgram (stepOf code task) := by
  cases task with
  | execute machine =>
    refine (neutralProgram_ofEval _).bind fun stepped => ?_
    cases stepped with
    | ok step => exact neutralProgram_pure _
    | error raised => exact (neutralProgram_ofEval _).bind fun _ => neutralProgram_pure _
  | call callee arguments site =>
    refine (neutralProgram_ofEval _).bind fun prepared => ?_
    cases prepared with
    | error raised => exact neutralProgram_pure _
    | ok target =>
      obtain ⟨function, arguments⟩ := target
      refine neutralProgram_function fun found ⟨scene, holds, known⟩ => ?_
      cases found with
      | none => exact neutralProgram_pure _
      | some object =>
        cases object with
        | closure closure =>
          refine (neutralProgram_ofEval _).bind fun started => ?_
          cases started with
          | ok machine | error raised => exact neutralProgram_pure _
        | builtin builtin => exact (neutralProgram_ofEval _).bind fun _ => neutralProgram_pure _
        | native native =>
          exact (neutralProgram_native site (natives scene _ native holds known arguments)).bind fun _ =>
            neutralProgram_pure _
  | exit status => exact neutralProgram_pure _

end StackLogic

namespace Custody

variable {custody : Custody} {code : HostCode}

/-- That the native functions of a heap keep an invariant and the stack, however tasks are run. -/
def Entrusts (custody : Custody) (code : HostCode) : Prop :=
  ∀ (runner : Runner) (task : ∀ {task scene outcome after}, custody.holds scene →
      runner task scene = some (outcome, after) →
      (custody.holds after ∧ custody.grows scene after) ∧ after.stack = scene.stack)
    (scene : Scene) (place : Nat) (native : Native), custody.holds scene →
    scene.interpreter.heap.functions[place]? = some (.native native) →
    ∀ arguments, (StackLogic.mk custody runner task).Neutral (native.body.run code arguments)

/-- Tasks of any depth keep the invariant, and leave the stack alone. -/
theorem perform (entrusts : custody.Entrusts code) (budget : Nat) {task : Task} {scene after : Scene}
    {outcome : Outcome} (holds : custody.holds scene) (ran : Bridge.perform code budget task scene = some (outcome, after)) :
    (custody.holds after ∧ custody.grows scene after) ∧ after.stack = scene.stack := by
  induction budget generalizing task scene outcome after with
  | zero => cases ran
  | succ budget ih =>
    have step : (StackLogic.mk custody (Bridge.perform code budget) ih).NeutralProgram (stepOf code task) :=
      StackLogic.neutralProgram_step task (entrusts _ ih)
    rw [perform_succ] at ran
    cases stepped : interpret (Bridge.perform code budget) (stepOf code task) scene with
    | none =>
      rw [stepped] at ran
      cases ran
    | some pair =>
      obtain ⟨next, between⟩ := pair
      obtain ⟨kept, same⟩ := step scene next between holds stepped
      rw [stepped] at ran
      cases next with
      | finish outcome =>
        cases ran
        exact ⟨kept, same⟩
      | again task =>
        obtain ⟨later, still⟩ := ih kept.1 ran
        exact ⟨⟨later.1, custody.trans kept.2 later.2⟩, still.trans same⟩
      | exit status => cases ran

/-- The logic of the runs of a runtime. -/
def logic (custody : Custody) (runtime : Runtime) (entrusts : custody.Entrusts runtime.code) : StackLogic where
  toCustody := custody
  runner := runtime.perform
  task := perform entrusts runtime.budget

end Custody
end TileScript.Bridge
