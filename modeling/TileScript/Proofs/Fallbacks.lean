import TileScript.Proofs.NativeEffects

/-! What the functions of the window manager fall back on where an argument is not of the kind that they read. Once their
arguments have been accepted none of that can be told from anything else, so it is never come to. -/

namespace TileScript.Bridge
open Script Attempt

/-- What stands at the end of every reading of an argument, for values of other kinds. -/
structure Fallbacks where
  /-- For a text that an argument is to be: a mode, a chord, a workspace, a layout or an orientation. -/
  text : Value → Act String
  flag : Value → Act Bool
  /-- For a gap or a padding. -/
  integer : Value → Act Int
  /-- For a word of a command, which can be left out. -/
  word : Value → Act (Option String)
  /-- For the number of a window. -/
  window : Value → Act (Option Nat)
  /-- For a command of an event or a chord. -/
  command : Value → Act Command
  /-- For the table of options. -/
  options : Value → Act CallResult
  /-- For an option that is there. -/
  textOption : Value → Act (Option String)
  flagOption : Value → Act (Option Bool)

namespace Fallbacks

/-- What the functions do: most of it says nothing. -/
def silent : Fallbacks where
  text _ := return ""
  flag _ := return false
  integer _ := return 0
  word _ := return none
  window _ := return none
  command value := throw (.runtime (Host.CommandFault.wrongKind value.kind).message)
  options _ := return .failed "expected a table of options"
  textOption _ := return none
  flagOption _ := return none

variable (otherwise : Fallbacks)

def textOf : Value → Act String
  | .string text => return text
  | other => otherwise.text other

def flagOf : Value → Act Bool
  | .boolean flag => return flag
  | other => otherwise.flag other

def integerOf : Value → Act Int
  | .number number => return number.truncate
  | other => otherwise.integer other

def windowOf : Value → Act (Option Nat)
  | .number number => return Value.windowId? (.number number)
  | other => otherwise.window other

def wordsOf : List Value → Act (List String)
  | [] => return []
  | .string word :: rest => do return word :: (← wordsOf rest)
  | other :: rest => do
    match ← otherwise.word other with
    | some word => return word :: (← wordsOf rest)
    | none => wordsOf rest

def commandOf (host : Host) : Value → Act Command
  | .string text => settle ((host.commandOf (.string text)).mapError fun fault => .runtime fault.message)
  | .function function => return .script function
  | other => otherwise.command other

def commandsOf : Arguments → Act (List Command)
  | [] => return []
  | raw :: rest => do
    let value ← Act.ofRaw raw
    let command ← otherwise.commandOf (← ask .host) value
    return command :: (← commandsOf rest)

/-- An option that is not there is no reason to fall back. -/
def textOptionOf : Value → Act (Option String)
  | .nil => return none
  | .string text => return some text
  | other => otherwise.textOption other

def flagOptionOf : Value → Act (Option Bool)
  | .nil => return none
  | .boolean flag => return some flag
  | other => otherwise.flagOption other

end Fallbacks

namespace ApiCall

variable (otherwise : Fallbacks) (dialect : Pattern.Dialect)

/-- What becomes of the words of a command. -/
def answerWords (words : List String) : Act CallResult := do
  let answer ← Table.create
  match (← ask .host).readCommand words with
  | .ok command =>
    let output ← ask (.runCommand command .empty)
    runCommand.report answer ("\n".intercalate output.stdout) ("\n".intercalate output.stderr) output.exitCode
  | .error refusal => runCommand.report answer "" refusal.message (-1)
  return .single (.table answer)

def windowElse (arguments : Arguments) : Act (Option WindowInfo) := do
  let id ← otherwise.windowOf (← arguments.value 1)
  return id.bind (← ask .host).window?

def setGapElse (arguments : Arguments) : Act CallResult := do
  let id ← arguments.value 1
  let gap : Dynamic Int ← match ← arguments.value 2 with
    | .function function => pure (.callback function id)
    | value => .constant <$> otherwise.integerOf value
  match id.integer?.bind GapPosition.ofId? with
  | none => return .failed "Invalid gap position value"
  | some position =>
    ask (.change (.gap position gap))
    return .none

def textFieldElse (options : Handle) (name : String) : Act (Option String) := do
  otherwise.textOptionOf (← Table.getField options name)

def flagFieldElse (options : Handle) (name : String) : Act (Option Bool) := do
  otherwise.flagOptionOf (← Table.getField options name)

def patternFieldElse (options : Handle) (name : String) : Act (Option Pattern) := do
  match ← textFieldElse otherwise options name with
  | none => return none
  | some text =>
    match dialect.read text with
    | .ok pattern => return some pattern
    | .error refusal =>
      throw (.runtime ("Can't parse '" ++ text ++ "' regex for " ++ name ++ ": " ++ refusal.report text))

def matcherElse (options : Handle) : Act WindowMatcher := do
  let appId ← textFieldElse otherwise options Api.WindowField.appId
  let appName ← patternFieldElse otherwise dialect options Api.WindowField.appName
  let title ← patternFieldElse otherwise dialect options Api.WindowField.title
  let workspace ← textFieldElse otherwise options Api.WindowField.workspace
  let duringStartup ← flagFieldElse otherwise options Api.WindowField.duringStartup
  return ⟨appId, appName, title, workspace, duringStartup⟩

def addWindowRuleElse (arguments : Arguments) : Act CallResult := do
  match ← arguments.value 1 with
  | .table options =>
    let commands ← otherwise.commandsOf (arguments.drop 1)
    let matcher ← matcherElse otherwise dialect options
    let checkFurther ← flagFieldElse otherwise options Api.WindowField.checkFurther
    ask (.change (.onWindowDetected ⟨matcher, checkFurther.getD false, commands⟩))
    return .single (.boolean true)
  | other => otherwise.options other

def settingElse (value : Value) : SettingName → Act (Except String Setting)
  | .startAtLogin => do return .ok (.startAtLogin (← otherwise.flagOf value))
  | .flattenContainers => do return .ok (.flattenContainers (← otherwise.flagOf value))
  | .oppositeOrientation => do return .ok (.oppositeOrientation (← otherwise.flagOf value))
  | .accordionPadding => do return .ok (.accordionPadding (← otherwise.integerOf value))
  | .rootLayout => do return .rootLayout <$> Layout.ofString (← otherwise.textOf value)
  | .rootOrientation => do return .rootOrientation <$> Orientation.ofString (← otherwise.textOf value)

def changeElse (name : SettingName) (arguments : Arguments) : Act CallResult := do
  match ← settingElse otherwise (← arguments.value 1) name with
  | .error message => return .failed message
  | .ok setting =>
    ask (.change (.setting setting))
    return .none

def bindElse (arguments : Arguments) : Act CallResult := do
  let mode ← otherwise.textOf (← arguments.value 1)
  let key ← otherwise.textOf (← arguments.value 2)
  let commands ← otherwise.commandsOf (arguments.drop 2)
  match Chord.ofString key with
  | .error _ => return .single (.boolean false)
  | .ok chord =>
    ask (.change (.bind mode ⟨chord, commands⟩))
    return .single (.boolean true)

def unbindElse (arguments : Arguments) : Act CallResult := do
  let mode ← otherwise.textOf (← arguments.value 1)
  let key ← otherwise.textOf (← arguments.value 2)
  let description := match Chord.ofString key with
    | .ok chord => chord.description
    | .error _ => key
  ask (.change (.unbind mode description))
  return .single (.boolean true)

end ApiCall

/-- Runs a function of the window manager, with something else to fall back on. -/
def Api.runElse (otherwise : Fallbacks) (dialect : Pattern.Dialect) (arguments : Arguments) : Api → Act CallResult
  | .command => do ApiCall.answerWords (← otherwise.wordsOf (← arguments.collect))
  | .activateMode => do
    ask (.change (.activate (← otherwise.textOf (← arguments.value 1))))
    return .none
  | .windowTitle => do
    return .single (.ofOption .string ((← ApiCall.windowElse otherwise arguments).map (·.title)))
  | .windowAppName => do
    return .single (.ofOption .string ((← ApiCall.windowElse otherwise arguments).bind (·.appName)))
  | .workspaceWindowCount => do
    let workspace := WorkspaceName.ofString (← otherwise.textOf (← arguments.value 1))
    return .single (.ofInt ((← ask .host).windowCount workspace))
  | .setGap => ApiCall.setGapElse otherwise arguments
  | .onFocusChanged => do
    ask (.change (.onFocusChanged (← otherwise.commandsOf arguments)))
    return .single (.boolean true)
  | .onMonitorChanged => do
    ask (.change (.onMonitorChanged (← otherwise.commandsOf arguments)))
    return .single (.boolean true)
  | .onWindowDetected => ApiCall.addWindowRuleElse otherwise dialect arguments
  | .setting name => ApiCall.changeElse otherwise name arguments
  | .bind => ApiCall.bindElse otherwise arguments
  | .unbind => ApiCall.unbindElse otherwise arguments

/-! ### What the functions do fall back on -/

namespace Fallbacks

theorem textOf_silent (value : Value) : silent.textOf value = pure value.textOrEmpty := by cases value <;> rfl

theorem flagOf_silent (value : Value) : silent.flagOf value = pure (value.boolean?.getD false) := by cases value <;> rfl

theorem integerOf_silent (value : Value) : silent.integerOf value = pure value.integerOrZero := by cases value <;> rfl

theorem windowOf_silent (value : Value) : silent.windowOf value = pure value.windowId? := by cases value <;> rfl

theorem textOptionOf_silent (value : Value) : silent.textOptionOf value = pure value.string? := by cases value <;> rfl

theorem flagOptionOf_silent (value : Value) : silent.flagOptionOf value = pure value.boolean? := by cases value <;> rfl

theorem wordsOf_silent (values : List Value) : silent.wordsOf values = pure (values.filterMap Value.string?) := by
  induction values with
  | nil => rfl
  | cons value rest ih =>
    cases value with
    | string word =>
      rw [wordsOf, ih]
      rfl
    | number _ | boolean _ | nil | table _ | function _ => exact ih

theorem commandOf_silent (host : Host) (value : Value) :
    silent.commandOf host value = settle ((host.commandOf value).mapError fun fault => .runtime fault.message) := by
  cases value <;> rfl

theorem commandsOf_silent (arguments : Arguments) : silent.commandsOf arguments = arguments.commands := by
  induction arguments with
  | nil => rfl
  | cons raw rest ih =>
    rw [commandsOf, Arguments.commands]
    refine congrArg (Act.ofRaw raw >>= ·) (funext fun value => congrArg (ask .host >>= ·) (funext fun host => ?_))
    rw [commandOf_silent, ih]
    cases host.commandOf value <;> rfl

end Fallbacks

namespace ApiCall

theorem textFieldElse_silent (options : Handle) : textFieldElse .silent options = stringField options :=
  funext fun name => congrArg (Table.getField options name >>= ·) (funext Fallbacks.textOptionOf_silent)

theorem flagFieldElse_silent (options : Handle) : flagFieldElse .silent options = booleanField options :=
  funext fun name => congrArg (Table.getField options name >>= ·) (funext Fallbacks.flagOptionOf_silent)

variable (dialect : Pattern.Dialect)

theorem patternFieldElse_silent (options : Handle) :
    patternFieldElse .silent dialect options = patternField dialect options := by
  funext name
  rw [patternFieldElse, textFieldElse_silent]
  rfl

theorem matcherElse_silent (options : Handle) : matcherElse .silent dialect options = matcher dialect options := by
  rw [matcherElse, textFieldElse_silent, patternFieldElse_silent, flagFieldElse_silent]
  rfl

theorem addWindowRuleElse_silent (arguments : Arguments) :
    addWindowRuleElse .silent dialect arguments = addWindowRule dialect arguments := by
  refine congrArg (arguments.value 1 >>= ·) (funext fun options => ?_)
  cases options with
  | table options =>
    dsimp only
    rw [Fallbacks.commandsOf_silent, matcherElse_silent, flagFieldElse_silent]
  | number _ | string _ | boolean _ | nil | function _ => rfl

end ApiCall

/-- With what the functions fall back on, that is what they are. -/
theorem Api.runElse_silent (dialect : Pattern.Dialect) (arguments : Arguments) (function : Api) :
    function.runElse .silent dialect arguments = function.run dialect arguments := by
  have texts := funext Fallbacks.textOf_silent
  cases function with
  | command =>
    rw [runElse, funext Fallbacks.wordsOf_silent]
    rfl
  | activateMode =>
    rw [runElse, texts]
    rfl
  | windowTitle | windowAppName =>
    rw [runElse, ApiCall.windowElse, funext Fallbacks.windowOf_silent]
    rfl
  | workspaceWindowCount =>
    rw [runElse, texts]
    rfl
  | setGap =>
    refine congrArg (arguments.value 1 >>= ·) (funext fun id => congrArg (arguments.value 2 >>= ·) (funext fun amount => ?_))
    cases amount <;> rfl
  | onFocusChanged | onMonitorChanged =>
    rw [runElse, Fallbacks.commandsOf_silent]
    rfl
  | onWindowDetected => exact ApiCall.addWindowRuleElse_silent dialect arguments
  | setting name =>
    refine congrArg (arguments.value 1 >>= ·) (funext fun value => ?_)
    cases name with
    | startAtLogin | flattenContainers | oppositeOrientation =>
      rw [ApiCall.settingElse, Fallbacks.flagOf_silent]
      rfl
    | accordionPadding =>
      rw [ApiCall.settingElse, Fallbacks.integerOf_silent]
      rfl
    | rootLayout | rootOrientation =>
      rw [ApiCall.settingElse, Fallbacks.textOf_silent]
      rfl
  | bind =>
    rw [runElse, ApiCall.bindElse, texts, Fallbacks.commandsOf_silent]
    rfl
  | unbind =>
    rw [runElse, ApiCall.unbindElse, texts]
    rfl

/-! ### Arguments that are accepted -/

variable {runner : Runner} {site : Site} {scene : Scene} {otherwise : Fallbacks} {dialect : Pattern.Dialect}
  {arguments : Arguments}

namespace Attempt

variable {α β : Type}

theorem pure_bind (value : α) (next : α → Act β) : (pure value >>= next) = next value := rfl

/-- Two sequences come to the same if their first parts do, and from there their second ones. -/
theorem exec_bind_alike {first second : Act α} {next next' : α → Act β} {middle : α → Scene → Prop}
    (same : exec runner first site scene = exec runner second site scene) (sees : second.Sees runner site scene middle)
    (onward : ∀ value between, scene.Unaltered between → middle value between →
      exec runner (next value) site between = exec runner (next' value) site between) :
    exec runner (first >>= next) site scene = exec runner (second >>= next') site scene := by
  obtain ⟨result, between, ran, calm, known⟩ := sees
  rw [exec_bind, exec_bind, same, ran]
  cases result with
  | ok value => exact onward value between calm (known value rfl)
  | error _ => rfl

end Attempt

section Values

variable {raw : Raw} {value : Value}

theorem Scene.Shows.textOf (shown : scene.Shows raw value) (kind : kindOf raw = .ok .string) :
    otherwise.textOf value = pure value.textOrEmpty := by
  rw [shown.text kind]
  rfl

theorem Scene.Shows.flagOf (shown : scene.Shows raw value) (kind : kindOf raw = .ok .boolean) :
    otherwise.flagOf value = pure (value.boolean?.getD false) := by
  cases shown <;> first | rfl | cases kind

theorem Scene.Shows.integerOf (shown : scene.Shows raw value) (kind : kindOf raw = .ok .number) :
    otherwise.integerOf value = pure value.integerOrZero := by
  cases shown <;> first | rfl | cases kind

theorem Scene.Shows.windowOf (shown : scene.Shows raw value) (kind : kindOf raw = .ok .number) :
    otherwise.windowOf value = pure value.windowId? := by
  cases shown <;> first | rfl | cases kind

theorem Scene.Shows.commandOf (shown : scene.Shows raw value) (fits : Api.commandParameter.Fits raw) (host : Host) :
    otherwise.commandOf host value = settle ((host.commandOf value).mapError fun fault => .runtime fault.message) := by
  obtain ⟨type, member, known⟩ := fits
  simp only [List.mem_cons, List.not_mem_nil, or_false] at member
  rcases member with rfl | rfl <;> cases shown <;> first | rfl | cases known

theorem Scene.Shows.textOptionOf (shown : scene.Shows raw value) (fits : (Parameter.optional (.kind .string)).Fits raw) :
    otherwise.textOptionOf value = pure value.string? := by
  obtain rfl | known := Parameter.eq_nil_or_fits fits
  · cases shown
    rfl
  · cases shown <;> first | rfl | cases known

theorem Scene.Shows.flagOptionOf (shown : scene.Shows raw value) (fits : (Parameter.optional (.kind .boolean)).Fits raw) :
    otherwise.flagOptionOf value = pure value.boolean? := by
  obtain rfl | known := Parameter.eq_nil_or_fits fits
  · cases shown
    rfl
  · cases shown <;> first | rfl | cases known

end Values

namespace Fallbacks

theorem wordsOf_texts (words : List String) : otherwise.wordsOf (words.map .string) = pure words := by
  induction words with
  | nil => rfl
  | cons word rest ih =>
    rw [List.map_cons, wordsOf, ih]
    rfl

/-- Commands that are all texts or functions. -/
theorem exec_commandsOf (valid : scene.interpreter.registry.Valid)
    (fits : ∀ raw ∈ arguments, Api.commandParameter.Fits raw) :
    exec runner (otherwise.commandsOf arguments) site scene = exec runner arguments.commands site scene := by
  induction arguments generalizing scene with
  | nil => rfl
  | cons raw rest ih =>
    obtain ⟨first, others⟩ := List.forall_mem_cons.mp fits
    refine exec_bind_alike rfl (Act.sees_ofRaw valid raw) fun value between calm shown => ?_
    refine exec_bind_alike rfl (sees_host calm.registry) fun host after later _ => ?_
    rw [shown.commandOf first]
    cases host.commandOf value with
    | error fault => rfl
    | ok command =>
      change exec runner (otherwise.commandsOf rest >>= _) site after = exec runner (Arguments.commands rest >>= _) site after
      rw [exec_bind, exec_bind, ih later.registry others]

end Fallbacks

/-! ### Options -/

namespace Api

/-- The options that are texts. -/
def textOptions : List String := [WindowField.appId, WindowField.appName, WindowField.title, WindowField.workspace]

def flagOptions : List String := [WindowField.duringStartup, WindowField.checkFurther]

theorem textOptions_declared {name : String} (text : name ∈ textOptions) :
    (name, Parameter.optional (.kind .string)) ∈ windowOptions.fields := by
  simp only [textOptions, List.mem_cons, List.not_mem_nil, or_false] at text
  rcases text with rfl | rfl | rfl | rfl <;> simp [windowOptions, TableSchema.fields]

theorem flagOptions_declared {name : String} (flag : name ∈ flagOptions) :
    (name, Parameter.optional (.kind .boolean)) ∈ windowOptions.fields := by
  simp only [flagOptions, List.mem_cons, List.not_mem_nil, or_false] at flag
  rcases flag with rfl | rfl <;> simp [windowOptions, TableSchema.fields]

end Api

/-- Options of a rule for windows, each of which is left out or of its kind. -/
structure TakesOptions (heap : Heap) (table : TableRef) : Prop where
  texts : ∀ name ∈ Api.textOptions, (Parameter.optional (.kind .string)).Fits (heap.field table name)
  flags : ∀ name ∈ Api.flagOptions, (Parameter.optional (.kind .boolean)).Fits (heap.field table name)

/-- A handle to such options that have no metatable. -/
structure Scene.Offers (scene : Scene) (handle : Handle) (table : TableRef) : Prop where
  registry : scene.interpreter.registry.Valid
  bare : scene.IsBare handle table
  takes : TakesOptions scene.interpreter.heap table

theorem TakesOptions.later {after : Scene} {table : TableRef} (takes : TakesOptions scene.interpreter.heap table)
    (calm : scene.Unaltered after) : TakesOptions after.interpreter.heap table := by
  constructor <;> rw [calm.reads.field]
  · exact takes.texts
  · exact takes.flags

theorem Scene.Offers.later {after : Scene} {handle : Handle} {table : TableRef} (offers : scene.Offers handle table)
    (calm : scene.Unaltered after) : after.Offers handle table :=
  ⟨calm.registry, calm.isBare offers.bare, offers.takes.later calm⟩

namespace ApiCall

section Options

variable {handle : Handle} {table : TableRef} {name : String}

theorem exec_textFieldElse (offers : scene.Offers handle table) (text : name ∈ Api.textOptions) :
    exec runner (textFieldElse otherwise handle name) site scene = exec runner (stringField handle name) site scene := by
  refine exec_bind_alike rfl (Table.sees_getField offers.registry offers.bare name) fun value between calm shown => ?_
  rw [shown.textOptionOf (offers.takes.texts name text)]

theorem exec_flagFieldElse (offers : scene.Offers handle table) (flag : name ∈ Api.flagOptions) :
    exec runner (flagFieldElse otherwise handle name) site scene = exec runner (booleanField handle name) site scene := by
  refine exec_bind_alike rfl (Table.sees_getField offers.registry offers.bare name) fun value between calm shown => ?_
  rw [shown.flagOptionOf (offers.takes.flags name flag)]

theorem exec_patternFieldElse (offers : scene.Offers handle table) (text : name ∈ Api.textOptions) :
    exec runner (patternFieldElse otherwise dialect handle name) site scene =
      exec runner (patternField dialect handle name) site scene :=
  exec_bind_alike (exec_textFieldElse offers text) (sees_stringField offers.registry offers.bare name) fun _ _ _ _ => rfl

theorem exec_matcherElse (offers : scene.Offers handle table) :
    exec runner (matcherElse otherwise dialect handle) site scene = exec runner (matcher dialect handle) site scene := by
  refine exec_bind_alike (exec_textFieldElse offers (by simp [Api.textOptions]))
    (sees_stringField offers.registry offers.bare _) fun appId first calm _ => ?_
  have offers := offers.later calm
  refine exec_bind_alike (exec_patternFieldElse offers (by simp [Api.textOptions]))
    (sees_patternField offers.registry offers.bare _) fun appName second calm _ => ?_
  have offers := offers.later calm
  refine exec_bind_alike (exec_patternFieldElse offers (by simp [Api.textOptions]))
    (sees_patternField offers.registry offers.bare _) fun title third calm _ => ?_
  have offers := offers.later calm
  refine exec_bind_alike (exec_textFieldElse offers (by simp [Api.textOptions]))
    (sees_stringField offers.registry offers.bare _) fun workspace fourth calm _ => ?_
  have offers := offers.later calm
  exact exec_bind_alike (exec_flagFieldElse offers (by simp [Api.flagOptions]))
    (sees_booleanField offers.registry offers.bare _) fun _ _ _ _ => rfl

end Options

theorem exec_addWindowRuleElse (valid : scene.interpreter.registry.Valid) {table : TableRef} {rest : List Raw}
    (bare : (scene.interpreter.heap.table table).metatable = none) (takes : TakesOptions scene.interpreter.heap table)
    (fits : ∀ raw ∈ rest, Api.commandParameter.Fits raw) :
    exec runner (addWindowRuleElse otherwise dialect (.table table :: rest)) site scene =
      exec runner (addWindowRule dialect (.table table :: rest)) site scene := by
  refine exec_bind_alike rfl (sees_first valid (.table table) rest) fun value first calm shown => ?_
  cases shown with
  | table _ found object =>
    have offers : first.Offers _ table :=
      ⟨calm.registry, ⟨found, (calm.metatables.same table).trans bare⟩, takes.later calm⟩
    refine exec_bind_alike (Fallbacks.exec_commandsOf offers.registry fits)
      (Arguments.sees_commands offers.registry rest) fun run second calm _ => ?_
    have offers := offers.later calm
    refine exec_bind_alike (exec_matcherElse offers) (sees_matcher offers.registry offers.bare) fun _ third calm _ => ?_
    have offers := offers.later calm
    exact exec_bind_alike (exec_flagFieldElse offers (by simp [Api.flagOptions]))
      (sees_booleanField offers.registry offers.bare _) fun _ _ _ _ => rfl

end ApiCall

/-! ### Functions -/

/-- The arguments that a function reads: as many as it reads, and each of the kind that it reads it as. -/
def Api.Takes (heap : Heap) (arguments : Arguments) : Api → Prop
  | .command => ∀ raw ∈ arguments, kindOf raw = .ok .string
  | .activateMode | .workspaceWindowCount => ∃ text, arguments = [text] ∧ kindOf text = .ok .string
  | .windowTitle | .windowAppName => ∃ window, arguments = [window] ∧ kindOf window = .ok .number
  | .setGap => ∃ position gap, arguments = [position, gap] ∧ kindOf position = .ok .number ∧
      (kindOf gap = .ok .number ∨ kindOf gap = .ok .function)
  | .onFocusChanged | .onMonitorChanged => ∀ raw ∈ arguments, Api.commandParameter.Fits raw
  | .onWindowDetected => ∃ table commands, arguments = .table table :: commands ∧
      (heap.table table).metatable = none ∧ TakesOptions heap table ∧ ∀ raw ∈ commands, Api.commandParameter.Fits raw
  | .setting name => ∃ value, arguments = [value] ∧ kindOf value = .ok name.kind
  | .bind => ∃ mode key commands, arguments = mode :: key :: commands ∧ kindOf mode = .ok .string ∧
      kindOf key = .ok .string ∧ ∀ raw ∈ commands, Api.commandParameter.Fits raw
  | .unbind => ∃ mode key, arguments = [mode, key] ∧ kindOf mode = .ok .string ∧ kindOf key = .ok .string

/-- What has been accepted is what is read. -/
theorem Check.sees_takes (valid : scene.interpreter.registry.Valid) (function : Api) (arguments : Arguments)
    (bare : ∀ table rest, function = .onWindowDetected → arguments = .table table :: rest →
      (scene.interpreter.heap.table table).metatable = none) :
    (Check.arguments arguments function.arguments).Sees runner site scene fun _ _ =>
      function.Takes scene.interpreter.heap arguments := by
  by_cases rules : function = .onWindowDetected
  · subst rules
    refine (Check.sees_rule valid arguments fun table rest => bare table rest rfl).weaken fun _ _ known => ?_
    obtain ⟨_, rest, rfl, ⟨table, rfl, fits⟩, accepted⟩ := known
    have takes : TakesOptions scene.interpreter.heap table :=
      ⟨fun name text => fits _ (Api.textOptions_declared text), fun name flag => fits _ (Api.flagOptions_declared flag)⟩
    exact ⟨table, rest, rfl, bare table rest rfl rfl, takes, accepted.fits⟩
  · refine (Check.sees_arguments valid function arguments bare).weaken fun _ _ accepted => ?_
    cases function with
    | command => exact accepted.fits
    | onFocusChanged | onMonitorChanged => exact accepted.fits
    | activateMode | windowTitle | windowAppName | workspaceWindowCount | setting _ =>
      obtain ⟨raw, _, rfl, kind, rfl⟩ := accepted
      exact ⟨raw, rfl, kind⟩
    | setGap =>
      obtain ⟨position, _, rfl, number, gap, _, rfl, ⟨type, member, kind⟩, rfl⟩ := accepted
      simp only [List.mem_cons, List.not_mem_nil, or_false] at member
      rcases member with rfl | rfl
      · exact ⟨position, gap, rfl, number, .inl kind⟩
      · exact ⟨position, gap, rfl, number, .inr kind⟩
    | bind =>
      obtain ⟨mode, _, rfl, named, key, commands, rfl, written, accepted⟩ := accepted
      exact ⟨mode, key, commands, rfl, named, written, Accepts.fits accepted⟩
    | unbind =>
      obtain ⟨mode, _, rfl, named, key, _, rfl, written, rfl⟩ := accepted
      exact ⟨mode, key, rfl, named, written⟩
    | onWindowDetected => exact absurd rfl rules

namespace ApiCall

/-- All words of a command are among those that it is run with. -/
theorem exec_words (texts : ∀ raw ∈ arguments, kindOf raw = .ok .string) :
    ∃ words : List String, List.Forall₂ scene.Shows arguments (words.map .string) ∧ ∀ otherwise,
      exec runner (Api.command.runElse otherwise dialect arguments) site scene = exec runner (answerWords words) site scene := by
  obtain ⟨words, shown, collected⟩ := Arguments.exec_collect_texts runner site texts
  refine ⟨words, shown, fun otherwise => ?_⟩
  rw [Api.runElse, exec_bind_ok collected, Fallbacks.wordsOf_texts]
  rfl

theorem exec_windowElse (valid : scene.interpreter.registry.Valid) {window : Raw} (kind : kindOf window = .ok .number) :
    exec runner (windowElse otherwise [window]) site scene = exec runner (window? [window]) site scene := by
  refine exec_bind_alike rfl (sees_first valid window []) fun value between calm shown => ?_
  rw [shown.windowOf kind]
  rfl

theorem exec_setGapElse (valid : scene.interpreter.registry.Valid) {position gap : Raw}
    (kind : kindOf gap = .ok .number ∨ kindOf gap = .ok .function) :
    exec runner (setGapElse otherwise [position, gap]) site scene = exec runner (setGap [position, gap]) site scene := by
  refine exec_bind_alike rfl (sees_first valid position [gap]) fun id between calm _ => ?_
  refine exec_bind_alike rfl (sees_second calm.registry position gap []) fun amount after later shown => ?_
  cases shown with
  | integer _ | number _ | function _ _ _ => rfl
  | nil | boolean _ | string _ | table _ _ _ => simp [kindOf] at kind

theorem exec_changeElse (valid : scene.interpreter.registry.Valid) {name : SettingName} {raw : Raw}
    (kind : kindOf raw = .ok name.kind) :
    exec runner (changeElse otherwise name [raw]) site scene = exec runner (change name [raw]) site scene := by
  refine exec_bind_alike rfl (sees_first valid raw []) fun value between calm shown => ?_
  cases name with
  | startAtLogin | flattenContainers | oppositeOrientation =>
    rw [settingElse, shown.flagOf kind]
    rfl
  | accordionPadding =>
    rw [settingElse, shown.integerOf kind]
    rfl
  | rootLayout | rootOrientation =>
    rw [settingElse, shown.textOf kind]
    rfl

theorem exec_bindElse (valid : scene.interpreter.registry.Valid) {mode key : Raw} {rest : List Raw}
    (named : kindOf mode = .ok .string) (written : kindOf key = .ok .string)
    (fits : ∀ raw ∈ rest, Api.commandParameter.Fits raw) :
    exec runner (bindElse otherwise (mode :: key :: rest)) site scene =
      exec runner (bindChord (mode :: key :: rest)) site scene := by
  refine exec_bind_alike rfl (sees_first valid mode (key :: rest)) fun value first calm shown => ?_
  rw [shown.textOf named, Attempt.pure_bind]
  refine exec_bind_alike rfl (sees_second calm.registry mode key rest) fun text second calm given => ?_
  rw [given.textOf written, Attempt.pure_bind]
  exact exec_bind_alike (Fallbacks.exec_commandsOf calm.registry fits) (Arguments.sees_commands calm.registry rest)
    fun _ _ _ _ => rfl

theorem exec_unbindElse (valid : scene.interpreter.registry.Valid) {mode key : Raw}
    (named : kindOf mode = .ok .string) (written : kindOf key = .ok .string) :
    exec runner (unbindElse otherwise [mode, key]) site scene = exec runner (unbindChord [mode, key]) site scene := by
  refine exec_bind_alike rfl (sees_first valid mode [key]) fun value first calm shown => ?_
  rw [shown.textOf named, Attempt.pure_bind]
  refine exec_bind_alike rfl (sees_second calm.registry mode key []) fun text second calm given => ?_
  rw [given.textOf written]
  rfl

end ApiCall

/-- Nothing that a function falls back on matters for arguments that are what it reads. -/
theorem Api.exec_runElse (valid : scene.interpreter.registry.Valid) {function : Api}
    (takes : function.Takes scene.interpreter.heap arguments) (otherwise : Fallbacks) :
    exec runner (function.runElse otherwise dialect arguments) site scene =
      exec runner (function.run dialect arguments) site scene := by
  cases function with
  | command =>
    obtain ⟨words, -, same⟩ := ApiCall.exec_words takes
    rw [← runElse_silent, same, same]
  | activateMode | workspaceWindowCount =>
    obtain ⟨text, rfl, kind⟩ := takes
    refine exec_bind_alike rfl (ApiCall.sees_first valid text []) fun value between calm shown => ?_
    rw [shown.textOf kind]
    rfl
  | windowTitle | windowAppName =>
    obtain ⟨window, rfl, kind⟩ := takes
    exact exec_bind_alike (ApiCall.exec_windowElse valid kind) (ApiCall.sees_window valid window) fun _ _ _ _ => rfl
  | setGap =>
    obtain ⟨position, gap, rfl, -, kind⟩ := takes
    exact ApiCall.exec_setGapElse valid kind
  | onFocusChanged | onMonitorChanged =>
    exact exec_bind_alike (Fallbacks.exec_commandsOf valid takes) (Arguments.sees_commands valid arguments)
      fun _ _ _ _ => rfl
  | onWindowDetected =>
    obtain ⟨table, commands, rfl, bare, options, fits⟩ := takes
    exact ApiCall.exec_addWindowRuleElse valid bare options fits
  | setting name =>
    obtain ⟨value, rfl, kind⟩ := takes
    exact ApiCall.exec_changeElse valid kind
  | bind =>
    obtain ⟨mode, key, commands, rfl, named, written, fits⟩ := takes
    exact ApiCall.exec_bindElse valid named written fits
  | unbind =>
    obtain ⟨mode, key, rfl, named, written⟩ := takes
    exact ApiCall.exec_unbindElse valid named written

theorem Api.Takes.later {after : Scene} {function : Api} (takes : function.Takes scene.interpreter.heap arguments)
    (calm : scene.Unaltered after) : function.Takes after.interpreter.heap arguments := by
  cases function with
  | onWindowDetected =>
    obtain ⟨table, commands, same, bare, options, fits⟩ := takes
    exact ⟨table, commands, same, (calm.metatables.same table).trans bare, options.later calm, fits⟩
  | command | activateMode | windowTitle | windowAppName | workspaceWindowCount | setGap | onFocusChanged
  | onMonitorChanged | setting _ | bind | unbind => exact takes

/-- A function whose arguments have been accepted, options being without a metatable, reads each of them as what it is. So
it does the same whatever there is to fall back on, which is what it does anyway, and leaves no word of a command out. -/
theorem fallbacks_unreachable {checked : Scene} {function : Api} (valid : scene.interpreter.registry.Valid)
    (bare : ∀ table rest, function = .onWindowDetected → arguments = .table table :: rest →
      (scene.interpreter.heap.table table).metatable = none)
    (accepted : exec runner (Check.arguments arguments function.arguments) site scene = some (.ok (), checked)) :
    function.Takes checked.interpreter.heap arguments ∧
    function.runElse .silent dialect arguments = function.run dialect arguments ∧
    (∀ otherwise, exec runner (function.runElse otherwise dialect arguments) site checked =
      exec runner (function.run dialect arguments) site checked) ∧
    (function = .command → ∃ words : List String, List.Forall₂ checked.Shows arguments (words.map .string) ∧
      exec runner (function.run dialect arguments) site checked = exec runner (ApiCall.answerWords words) site checked) := by
  obtain ⟨result, after, ran, calm, known⟩ : (Check.arguments arguments function.arguments).Sees runner site scene _ :=
    Check.sees_takes valid function arguments bare
  cases ran.symm.trans accepted
  have takes := (known () rfl).later calm
  refine ⟨takes, Api.runElse_silent dialect arguments function, fun otherwise => Api.exec_runElse calm.registry takes otherwise, ?_⟩
  rintro rfl
  obtain ⟨words, shown, same⟩ := ApiCall.exec_words takes
  refine ⟨words, shown, ?_⟩
  rw [← Api.runElse_silent]
  exact same .silent

/-- A rule for windows is made from the globals and a command, though anything to fall back on would be an alarm. -/
theorem fallbacks_unreachable_alarm :
    let scene : Scene := ⟨⟨0⟩, .initial, .initial .blank, []⟩
    let arguments := [Raw.table Heap.globals, .ofString "focus left"]
    let alarm {α β : Type} (_ : α) : Act β := throw (.runtime "unreachable")
    let alarms : Fallbacks := ⟨alarm, alarm, alarm, alarm, alarm, alarm, alarm, alarm, alarm⟩
    ∃ checked, exec (fun _ _ => none) (Check.arguments arguments Api.onWindowDetected.arguments) .host scene =
        some (.ok (), checked) ∧
      exec (fun _ _ => none) (Api.onWindowDetected.runElse alarms .standard arguments) .host checked =
        exec (fun _ _ => none) (Api.onWindowDetected.run .standard arguments) .host checked := by
  intro scene arguments alarm alarms
  have ends : (exec (fun _ _ => none) (Check.arguments arguments Api.onWindowDetected.arguments) .host scene).map
      (fun ran => ran.1.isOk) = some true := by decide +kernel
  obtain ⟨⟨_ | _, checked⟩, accepted, ok⟩ := Option.map_eq_some_iff.mp ends
  · cases ok
  · exact ⟨checked, accepted, (fallbacks_unreachable Registry.empty_valid
      (fun table _ _ _ => Heap.initial_isPlain table) accepted).2.2.1 alarms⟩

end TileScript.Bridge
