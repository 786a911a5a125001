import TileScript.Proofs.PassageActs
import TileScript.Bridge.Run

/-! Whole tasks come to the same in every context. Of the native functions, that is said of those alone that
scripts are offered: code of the host may well know one context by its number. -/

namespace TileScript.Bridge
open Script Attempt Passage

namespace Transfer

variable {transfer : Transfer} {α ε : Type}

/-! ### Arguments -/

theorem fixed_rawArgument (arguments : Arguments) (index : Int) : transfer.Fixed (arguments.raw index) := by
  unfold Arguments.raw
  dsimp only
  split
  · exact fixed_pure _
  · exact carried_throw _

theorem carried_argument (arguments : Arguments) (index : Int) :
    transfer.Carried (arguments.value index) (arguments.value index) (Value.rename transfer.ids) :=
  (fixed_rawArgument arguments index).bind carried_ofRaw

theorem carried_collect (arguments : Arguments) :
    transfer.Carried arguments.collect arguments.collect (List.map (Value.rename transfer.ids)) := by
  induction arguments with
  | nil => exact carried_pure (List.map (Value.rename transfer.ids)) []
  | cons raw rest ih =>
    exact (carried_ofRaw raw).bind fun value => ih.bind fun values =>
      carried_pure (List.map (Value.rename transfer.ids)) (value :: values)

theorem carried_host : transfer.Carried (ask .host : Attempt ε Host) (ask .host) transfer.host :=
  carried_ask trivial fun _ => rfl

theorem carried_commands (arguments : Arguments) :
    transfer.Carried arguments.commands arguments.commands (List.map (Command.rename transfer.ids)) := by
  induction arguments with
  | nil => exact carried_pure (List.map (Command.rename transfer.ids)) []
  | cons raw rest ih =>
    refine (carried_ofRaw raw).bind fun value => carried_host.bind fun host => ?_
    have read : (transfer.host host).commandOf (value.rename transfer.ids) =
        (host.commandOf value).map (Command.rename transfer.ids) := Host.commandOf_rename host value
    rw [read]
    cases host.commandOf value with
    | error fault => exact carried_throw _
    | ok command =>
      exact ih.bind fun commands => carried_pure (List.map (Command.rename transfer.ids)) (command :: commands)

/-! ### Checks -/

theorem carried_accepts {check check' : Check} (carried : transfer.Carried check check' id) :
    transfer.Carried (Check.accepts check) (Check.accepts check') id := by
  refine carried.observe.bind fun outcome => ?_
  cases outcome with
  | ok _ | error _ => exact fixed_pure _

mutual

theorem carried_checkTable (table : Handle) (path : String) (schema : TableSchema) :
    transfer.Carried (Check.table table path schema) (Check.table (table.rename transfer.ids) path schema) id := by
  cases schema with
  | mk fields =>
    unfold Check.table
    split
    · exact (carried_checkFields table path fields).mapError _
    · exact carried_checkFields table path fields

theorem carried_checkFields (table : Handle) (path : String) (fields : List (String × Parameter)) :
    transfer.Carried (Check.checkFields table path fields)
      (Check.checkFields (table.rename transfer.ids) path fields) id := by
  cases fields with
  | nil => exact fixed_pure ()
  | cons field rest =>
    obtain ⟨name, parameter⟩ := field
    exact (carried_checkField table name _ parameter).bind fun _ => carried_checkFields table path rest

theorem carried_checkField (table : Handle) (name field : String) (parameter : Parameter) :
    transfer.Carried (Check.checkField table name field parameter)
      (Check.checkField (table.rename transfer.ids) name field parameter) id := by
  cases parameter with
  | specific type => exact carried_checkFieldType table name field type
  | oneOf types =>
    refine (carried_anyFieldType table name field types).bind fun found => ?_
    cases found with
    | true => exact fixed_pure ()
    | false => exact ((carried_fieldKind table name).mapError _).bind fun _ => carried_throw _
  | any => exact fixed_pure ()

theorem carried_anyFieldType (table : Handle) (name field : String) (types : List ParameterType) :
    transfer.Carried (Check.anyFieldType table name field types)
      (Check.anyFieldType (table.rename transfer.ids) name field types) id := by
  cases types with
  | nil => exact fixed_pure false
  | cons type rest =>
    refine (carried_accepts (carried_checkFieldType table name field type)).bind fun found => ?_
    cases found with
    | true => exact fixed_pure true
    | false => exact carried_anyFieldType table name field rest

theorem carried_checkFieldType (parent : Handle) (name field : String) (type : ParameterType) :
    transfer.Carried (Check.checkFieldType parent name field type)
      (Check.checkFieldType (parent.rename transfer.ids) name field type) id := by
  cases type with
  | kind wanted =>
    refine ((carried_fieldKind parent name).mapError _).bind fun actual => ?_
    dsimp only [id]
    split
    · exact carried_throw _
    · exact fixed_pure ()
  | schema schema =>
    refine ((carried_getField parent name).mapError _).bind fun value => ?_
    cases value with
    | table inner => exact carried_checkTable inner field schema
    | number _ | string _ | boolean _ | nil | function _ => exact carried_throw _

end

theorem fixed_argumentType (value : Raw) (type : ParameterType) : transfer.Fixed (Check.argumentType value type) := by
  cases type with
  | kind wanted =>
    refine ((fixed_kind value).mapError _).bind fun actual => ?_
    dsimp only [id]
    split
    · exact carried_throw _
    · exact fixed_pure ()
  | schema schema =>
    refine ((carried_ofRaw value).mapError _).bind fun found => ?_
    cases found with
    | table inner => exact carried_checkTable inner "" schema
    | number _ | string _ | boolean _ | nil | function _ => exact carried_throw _

theorem fixed_anyArgumentType (value : Raw) (types : List ParameterType) :
    transfer.Fixed (Check.anyArgumentType value types) := by
  induction types with
  | nil => exact fixed_pure false
  | cons type rest ih =>
    refine (carried_accepts (fixed_argumentType value type)).bind fun found => ?_
    cases found with
    | true => exact fixed_pure true
    | false => exact ih

theorem fixed_checkArgument (value : Raw) (parameter : Parameter) : transfer.Fixed (Check.argument value parameter) := by
  cases parameter with
  | specific type => exact fixed_argumentType value type
  | oneOf types =>
    refine (fixed_anyArgumentType value types).bind fun found => ?_
    cases found with
    | true => exact fixed_pure ()
    | false => exact ((fixed_kind value).mapError _).bind fun _ => carried_throw _
  | any => exact fixed_pure ()

theorem fixed_takeMatching (parameter : Parameter) (isLast : Bool) (place : Nat) (values : List Raw) :
    transfer.Fixed (Check.takeMatching parameter isLast place values) := by
  induction values generalizing place with
  | nil => exact fixed_pure _
  | cons value rest ih =>
    refine (fixed_checkArgument value parameter).observe.bind fun outcome => ?_
    cases outcome with
    | ok _ => exact ih (place + 1)
    | error message =>
      cases isLast with
      | true => exact carried_throw _
      | false => exact fixed_pure _

theorem fixed_fromPlace (count place : Nat) (values : List Raw) (signature : List Argument) :
    transfer.Fixed (Check.fromPlace count place values signature) := by
  induction signature generalizing place values with
  | nil =>
    unfold Check.fromPlace
    split
    · exact fixed_pure ()
    · exact carried_throw _
  | cons argument rest ih =>
    cases argument with
    | fixed parameter =>
      cases values with
      | nil => exact carried_throw _
      | cons value values =>
        exact ((fixed_checkArgument value parameter).mapError _).bind fun _ => ih (place + 1) values
    | variadic parameter =>
      exact (fixed_takeMatching parameter rest.isEmpty place values).bind fun left => ih left.1 left.2

theorem fixed_checkArguments (values : List Raw) (signature : List Argument) :
    transfer.Fixed (Check.arguments values signature) := fixed_fromPlace _ _ _ _

/-! ### What the window manager offers -/

theorem carried_change (wanted : Change) :
    transfer.Carried (ask (.change wanted) : Act Unit) (ask (.change (wanted.rename transfer.ids))) id := by
  refine carried_ask trivial fun scene => ?_
  change ((), Scene.mk _ _ ((transfer.manager scene.manager).change (wanted.rename transfer.ids)) _) = _
  rw [manager_change]
  rfl

/-- An answer to the script without a handle. -/
theorem carried_reply {result : CallResult} (free : result.rename transfer.ids = result) :
    transfer.Carried (pure result : Act CallResult) (pure result) (CallResult.rename transfer.ids) := by
  have returned : transfer.Carried (pure result : Act CallResult) (pure (result.rename transfer.ids))
      (CallResult.rename transfer.ids) := carried_pure _ result
  rw [free] at returned
  exact returned

/-- A change, and such an answer. -/
theorem carried_changed (wanted : Change) {result : CallResult} (free : result.rename transfer.ids = result) :
    transfer.Carried (do
      ask (.change wanted)
      return result : Act CallResult) (do
      ask (.change (wanted.rename transfer.ids))
      return result) (CallResult.rename transfer.ids) :=
  (carried_change wanted).bind fun _ => carried_reply free

theorem carried_runCommand (arguments : Arguments) :
    transfer.Carried (ApiCall.runCommand arguments) (ApiCall.runCommand arguments) (CallResult.rename transfer.ids) := by
  refine (carried_collect arguments).bind fun values => carried_create.bind fun answer => carried_host.bind fun host => ?_
  have words : (values.map (Value.rename transfer.ids)).filterMap Value.string? = values.filterMap Value.string? := by
    rw [List.filterMap_map]
    exact congrArg (List.filterMap · values) (funext Value.string?_rename)
  dsimp only
  rw [words, show (transfer.host host).readCommand = host.readCommand from rfl]
  cases host.readCommand (values.filterMap Value.string?) with
  | ok command =>
    exact (fixed_ask (by trivial)).bind fun output => (carried_setFields answer _).bind fun _ =>
      carried_pure (CallResult.rename transfer.ids) (.single (.table answer))
  | error refusal =>
    exact (carried_setFields answer _).bind fun _ =>
      carried_pure (CallResult.rename transfer.ids) (.single (.table answer))

theorem fixed_window? (arguments : Arguments) : transfer.Fixed (ApiCall.window? arguments) := by
  refine (carried_argument arguments 1).bind fun value => ?_
  rw [Value.windowId?_rename]
  exact carried_host.bind fun host => fixed_pure (value.windowId?.bind host.window?)

theorem carried_countWindows (arguments : Arguments) :
    transfer.Carried (ApiCall.countWindows arguments) (ApiCall.countWindows arguments)
      (CallResult.rename transfer.ids) := by
  refine (carried_argument arguments 1).bind fun value => ?_
  rw [Value.textOrEmpty_rename]
  exact carried_host.bind fun host => carried_reply rfl

theorem carried_setGap (arguments : Arguments) :
    transfer.Carried (ApiCall.setGap arguments) (ApiCall.setGap arguments) (CallResult.rename transfer.ids) := by
  refine (carried_argument arguments 1).bind fun id => (carried_argument arguments 2).bind fun value => ?_
  dsimp only
  rw [Value.integer?_rename]
  cases id.integer?.bind GapPosition.ofId? with
  | none => exact carried_pure (CallResult.rename transfer.ids) (.failed _)
  | some position =>
    cases value with
    | function function => exact carried_changed (.gap position (.callback function id)) rfl
    | number _ | string _ | boolean _ | nil | table _ =>
      exact carried_changed (.gap position (.constant _)) rfl

theorem carried_stringField (options : Handle) (name : String) :
    transfer.Carried (ApiCall.stringField options name) (ApiCall.stringField (options.rename transfer.ids) name) id := by
  refine (carried_getField options name).bind fun value => ?_
  rw [Value.string?_rename]
  exact fixed_pure _

theorem carried_booleanField (options : Handle) (name : String) :
    transfer.Carried (ApiCall.booleanField options name) (ApiCall.booleanField (options.rename transfer.ids) name) id := by
  refine (carried_getField options name).bind fun value => ?_
  rw [Value.boolean?_rename]
  exact fixed_pure _

theorem carried_patternField (dialect : Pattern.Dialect) (options : Handle) (name : String) :
    transfer.Carried (ApiCall.patternField dialect options name)
      (ApiCall.patternField dialect (options.rename transfer.ids) name) id := by
  refine (carried_stringField options name).bind fun text => ?_
  cases text with
  | none => exact fixed_pure _
  | some text =>
    dsimp only [id]
    split
    · exact fixed_pure _
    · exact carried_throw _

theorem carried_matcher (dialect : Pattern.Dialect) (options : Handle) :
    transfer.Carried (ApiCall.matcher dialect options) (ApiCall.matcher dialect (options.rename transfer.ids)) id :=
  (carried_stringField options _).bind fun _ => (carried_patternField dialect options _).bind fun _ =>
    (carried_patternField dialect options _).bind fun _ => (carried_stringField options _).bind fun _ =>
    (carried_booleanField options _).bind fun _ => fixed_pure _

theorem carried_addWindowRule (dialect : Pattern.Dialect) (arguments : Arguments) :
    transfer.Carried (ApiCall.addWindowRule dialect arguments) (ApiCall.addWindowRule dialect arguments)
      (CallResult.rename transfer.ids) := by
  refine (carried_argument arguments 1).bind fun value => ?_
  cases value with
  | table options =>
    exact (carried_commands _).bind fun commands => (carried_matcher dialect options).bind fun matcher =>
      (carried_booleanField options _).bind fun further =>
        carried_changed (.onWindowDetected ⟨matcher, further.getD false, commands⟩) rfl
  | number _ | string _ | boolean _ | nil | function _ =>
    exact carried_pure (CallResult.rename transfer.ids) (.failed _)

theorem setting_rename (name : SettingName) (value : Value) :
    ApiCall.setting name (value.rename transfer.ids) = ApiCall.setting name value := by
  cases name <;> simp only [ApiCall.setting, Value.boolean?_rename, Value.integerOrZero_rename, Value.textOrEmpty_rename]

theorem carried_changeSetting (name : SettingName) (arguments : Arguments) :
    transfer.Carried (ApiCall.change name arguments) (ApiCall.change name arguments) (CallResult.rename transfer.ids) := by
  refine (carried_argument arguments 1).bind fun value => ?_
  rw [setting_rename]
  cases ApiCall.setting name value with
  | error message => exact carried_pure (CallResult.rename transfer.ids) (.failed message)
  | ok setting => exact carried_changed (.setting setting) rfl

theorem carried_bindChord (arguments : Arguments) :
    transfer.Carried (ApiCall.bindChord arguments) (ApiCall.bindChord arguments) (CallResult.rename transfer.ids) := by
  refine (carried_argument arguments 1).bind fun mode => (carried_argument arguments 2).bind fun key =>
    (carried_commands _).bind fun commands => ?_
  rw [Value.textOrEmpty_rename, Value.textOrEmpty_rename]
  cases Chord.ofString key.textOrEmpty with
  | error _ => exact carried_pure (CallResult.rename transfer.ids) (.single (.boolean false))
  | ok chord => exact carried_changed (.bind mode.textOrEmpty ⟨chord, commands⟩) rfl

theorem carried_unbindChord (arguments : Arguments) :
    transfer.Carried (ApiCall.unbindChord arguments) (ApiCall.unbindChord arguments)
      (CallResult.rename transfer.ids) := by
  refine (carried_argument arguments 1).bind fun mode => (carried_argument arguments 2).bind fun key => ?_
  rw [Value.textOrEmpty_rename, Value.textOrEmpty_rename]
  exact carried_changed (.unbind mode.textOrEmpty _) rfl

theorem carried_api (dialect : Pattern.Dialect) (function : Api) (arguments : Arguments) :
    transfer.Carried (function.run dialect arguments) (function.run dialect arguments)
      (CallResult.rename transfer.ids) := by
  have optional : ∀ text : Option String, (CallResult.single (.ofOption .string text)).rename transfer.ids =
      .single (.ofOption .string text) := by
    intro text
    cases text <;> rfl
  cases function with
  | command => exact carried_runCommand arguments
  | activateMode =>
    refine (carried_argument arguments 1).bind fun mode => ?_
    rw [Value.textOrEmpty_rename]
    exact carried_changed (.activate mode.textOrEmpty) rfl
  | windowTitle | windowAppName => exact (fixed_window? arguments).bind fun found => carried_reply (optional _)
  | workspaceWindowCount => exact carried_countWindows arguments
  | setGap => exact carried_setGap arguments
  | onFocusChanged =>
    exact (carried_commands arguments).bind fun commands => carried_changed (.onFocusChanged commands) rfl
  | onMonitorChanged =>
    exact (carried_commands arguments).bind fun commands => carried_changed (.onMonitorChanged commands) rfl
  | onWindowDetected => exact carried_addWindowRule dialect arguments
  | setting name => exact carried_changeSetting name arguments
  | bind => exact carried_bindChord arguments
  | unbind => exact carried_unbindChord arguments

/-! ### Native functions -/

theorem carried_pushResults (pushed : Nat) (values : List Value) :
    transfer.Carried (Native.pushResults pushed values)
      (Native.pushResults pushed (values.map (·.rename transfer.ids))) id := by
  induction values generalizing pushed with
  | nil => exact fixed_pure ()
  | cons value rest ih =>
    refine (carried_push value).observe.bind fun result => ?_
    cases result with
    | ok _ => exact ih (pushed + 1)
    | error error => exact (fixed_remove pushed).observe.bind fun _ => carried_throw _

theorem carried_pass (result : CallResult) :
    transfer.Carried (Native.pass result) (Native.pass (result.rename transfer.ids)) id := by
  rw [Native.pass, Native.pass, CallResult.values_rename]
  cases result.values with
  | error message => exact carried_throw message
  | ok values =>
    refine (carried_pushResults 0 values).bind fun _ => ?_
    rw [List.length_map]
    exact (fixed_takeTop values.length).mapError _

theorem fixed_receive (native : Native) (arguments : Arguments) : transfer.Fixed (native.receive arguments) := by
  have noted : transfer.Fixed (do
      if native.isTraced then
        let _ ← arguments.collect.mapError Error.raised
        ask (.note native.name arguments) : Attempt String Unit) := by
    split
    · exact ((carried_collect arguments).mapError _).bind fun _ => fixed_ask (by trivial)
    · exact fixed_pure ()
  unfold Native.receive
  cases native.schema with
  | some signature => exact (fixed_checkArguments arguments signature).bind fun _ => noted
  | none => exact noted

theorem fixed_apiCall (code : HostCode) (function : Api) (arguments : Arguments) :
    transfer.Fixed ((Native.ofApi function).call code arguments) :=
  (fixed_receive _ arguments).bind fun _ => ((carried_api code.patterns function arguments).mapError _).bind carried_pass

theorem Fixed.program {attempt : Attempt ε α} (fixed : transfer.Fixed attempt) (site : Site) :
    transfer.FixedProgram (attempt site).run := by
  intro scene offers
  have brings := fixed site scene offers
  rw [Except.map_id] at brings
  exact brings

theorem fixedProgram_api (code : HostCode) (function : Api) (arguments : Arguments) (site : Site) :
    transfer.FixedProgram ((Native.ofApi function).run code arguments site) := by
  refine ((fixed_apiCall code function arguments).program _).bind fun result => ?_
  cases result with
  | ok results => exact fixedProgram_pure _
  | error message => exact fixedProgram_ofEval _

/-! ### Tasks -/

theorem fixedProgram_step (code : HostCode) (task : Task) : transfer.FixedProgram (stepOf code task) := by
  cases task with
  | execute machine =>
    refine (fixedProgram_ofEval _).bind fun stepped => ?_
    cases stepped with
    | ok step => exact fixedProgram_pure _
    | error raised => exact (fixedProgram_ofEval _).bind fun _ => fixedProgram_pure _
  | call callee arguments site =>
    refine (fixedProgram_ofEval _).bind fun prepared => ?_
    cases prepared with
    | error raised => exact fixedProgram_pure _
    | ok target =>
      obtain ⟨function, arguments⟩ := target
      refine fixedProgram_function fun found offered => ?_
      cases found with
      | none => exact fixedProgram_pure _
      | some object =>
        cases object with
        | closure closure =>
          refine (fixedProgram_ofEval _).bind fun started => ?_
          cases started with
          | ok machine | error raised => exact fixedProgram_pure _
        | builtin builtin => exact (fixedProgram_ofEval _).bind fun _ => fixedProgram_pure _
        | native native =>
          obtain ⟨api, rfl⟩ := offered native rfl
          exact (fixedProgram_api code api arguments site).bind fun _ => fixedProgram_pure _
  | exit status => exact fixedProgram_pure _

end Transfer

/-- Tasks of any depth come to the same on every passage. -/
theorem Passage.perform (passage : Passage) (code : HostCode) (budget : Nat) (task : Task) (scene : Scene)
    (offers : scene.OffersApi) :
    passage.Brings id (Bridge.perform code budget task scene) (Bridge.perform code budget task (passage.scene scene)) := by
  induction budget generalizing task scene with
  | zero => exact ⟨rfl, fun _ _ ran => by cases ran⟩
  | succ budget ih =>
    have step : (Transfer.mk passage (Bridge.perform code budget) ih).FixedProgram (stepOf code task) :=
      Transfer.fixedProgram_step code task
    obtain ⟨same, offered⟩ := step scene offers
    rw [perform_succ, perform_succ]
    change interpret (Bridge.perform code budget) (stepOf code task) (passage.scene scene) =
      (interpret (Bridge.perform code budget) (stepOf code task) scene).map _ at same
    rw [same]
    cases stepped : interpret (Bridge.perform code budget) (stepOf code task) scene with
    | none => exact ⟨rfl, fun _ _ ran => by cases ran⟩
    | some pair =>
      obtain ⟨next, between⟩ := pair
      have left : between.OffersApi := offered next between stepped
      cases next with
      | finish outcome => exact .some id left
      | again task => exact ih task between left
      | exit status => exact ⟨rfl, fun _ _ ran => by cases ran⟩

/-- The runs of a runtime on a passage. -/
def Runtime.transfer (runtime : Runtime) (passage : Passage) : Transfer where
  toPassage := passage
  runner := runtime.perform
  task := passage.perform runtime.code runtime.budget

end TileScript.Bridge
