import TileScript.Bridge.NativeCall
import TileScript.Proofs.ChangedParts
import TileScript.Proofs.CheckedArguments
import TileScript.Proofs.WindowOptions

/-! What the functions of the window manager do. All that can fail comes before the one change that a call
makes, and that change is confined to the part which the function is for. -/

/-- How a text is looked up among bindings: in the canonical way if it is a chord. -/
def TileScript.Chord.wanted (text : String) : String :=
  match Chord.ofString text with
  | .ok chord => chord.description
  | .error _ => text

namespace TileScript.Bridge
open Script Attempt

variable {runner : Runner} {site : Site} {scene : Scene}

/-- The gap that a number stands for, or a function that is asked with the position. -/
def Value.gap (id : Value) : Value → Dynamic Int
  | .function asked => .callback asked id
  | value => .constant value.integerOrZero

namespace Api

/-- What a call with these arguments is for, done between two scenes. -/
def Does (function : Api) (arguments : Arguments) (before after : Scene) : Prop :=
  let old := before.manager
  let new := after.manager
  match function with
  | .command => ∃ words : List String, List.Forall₂ after.Shows arguments (words.map .string) ∧
      match old.host.readCommand words with
      | .ok known => old.ChangesOnly .executed new ∧ new.host.executed = old.host.executed ++ [⟨known, .empty⟩]
      | .error _ => new = old
  | .activateMode => ∃ mode, List.Forall₂ after.Shows arguments [.string mode] ∧ old.ChangesOnly .activeMode new ∧
      new.config.activeMode = mode ∧ new.host.applied = old.host.applied ++ [old.config.modes.get mode]
  | .windowTitle | .windowAppName | .workspaceWindowCount => new = old
  | .setGap => ∃ id amount position, List.Forall₂ after.Shows arguments [id, amount] ∧
      id.integer?.bind GapPosition.ofId? = some position ∧ old.ChangesOnly (.gap position) new ∧
      new.config.gaps.get position = id.gap amount
  | .onFocusChanged => ∃ commands, List.Forall₂ (after.Means old.host) arguments commands ∧
      old.ChangesOnly .focusCommands new ∧ new.config.onFocusChanged = old.config.onFocusChanged ++ commands
  | .onMonitorChanged => ∃ commands, List.Forall₂ (after.Means old.host) arguments commands ∧
      old.ChangesOnly .monitorCommands new ∧ new.config.onMonitorChanged = old.config.onMonitorChanged ++ commands
  | .onWindowDetected => ∃ rule, List.Forall₂ (after.Means old.host) (arguments.drop 1) rule.commands ∧
      old.ChangesOnly .windowRules new ∧ new.config.onWindowDetected = old.config.onWindowDetected ++ [rule]
  | .setting name => ∃ value setting, List.Forall₂ after.Shows arguments [value] ∧
      ApiCall.setting name value = .ok setting ∧ old.ChangesOnly (.setting name) new ∧ new.config.setting name = setting
  | .bind => ∃ mode key chord commands old?, List.Forall₂ after.Shows (arguments.take 2) [.string mode, .string key] ∧
      Chord.ofString key = .ok chord ∧ List.Forall₂ (after.Means old.host) (arguments.drop 2) commands ∧
      old.ChangesOnly (.bindings mode) new ∧ (∀ binding ∈ old?, Binding.chord binding = chord) ∧
      (old.config.modes.get mode).Replaces old? (some ⟨chord, commands⟩) (new.config.modes.get mode) ∧
      (new.config.modes.get mode).lookup chord = some ⟨chord, commands⟩ ∧ old.AppliesIfActive mode new
  | .unbind => ∃ mode key old?, List.Forall₂ after.Shows arguments [.string mode, .string key] ∧
      old.ChangesOnly (.bindings mode) new ∧ (∀ binding ∈ old?, Binding.description binding = Chord.wanted key) ∧
      (old.config.modes.get mode).Replaces old? none (new.config.modes.get mode) ∧
      (old? = none → new = old) ∧ (old? ≠ none → old.AppliesIfActive mode new)

/-- A call that gives values back has done what it is for; only a text that is no chord is told apart by
what is given back. -/
def Done (function : Api) (arguments : Arguments) (results : List Raw) (before after : Scene) : Prop :=
  (function = .bind ∧ results = [.boolean false] ∧ after.manager = before.manager) ∨
    (function = .bind → results = [.boolean true]) ∧ function.Does arguments before after

theorem Done.since {function : Api} {arguments : Arguments} {results : List Raw} {before between after : Scene}
    (done : function.Done arguments results between after) (same : between.manager = before.manager) :
    function.Done arguments results before after := by
  unfold Done Does at done ⊢
  rwa [same] at done

end Api

/-! ### What calls give back -/

/-- A table tells what came of a command. -/
structure Scene.Reports (scene : Scene) (table : TableRef) (output : CommandOutput) : Prop where
  stdout : (scene.interpreter.heap.table table).get (.ofString "stdout") = .ofString ("\n".intercalate output.stdout)
  stderr : (scene.interpreter.heap.table table).get (.ofString "stderr") = .ofString ("\n".intercalate output.stderr)
  exitCode : (scene.interpreter.heap.table table).get (.ofString "exitCode") = ofDouble (Double.ofInt output.exitCode)

/-- What a call gives back, and the values that scripts get for it. -/
inductive Scene.Conveys (scene : Scene) : CallResult → List Raw → Prop where
  | none : scene.Conveys .none []
  | single {value : Value} {raw : Raw} (known : scene.rawOf value = .ok raw) : scene.Conveys (.single value) [raw]

theorem Scene.Conveys.exec_pass {result : CallResult} {raws : List Raw} (conveys : scene.Conveys result raws) :
    exec runner (Native.pass result) site scene = some (.ok raws, scene) := by
  cases conveys with
  | none => exact Native.exec_pass rfl .nil
  | single known => exact Native.exec_pass rfl (.cons known .nil)

namespace Api

variable {function : Api} {arguments : Arguments} {after : Scene} {value : Value} {raw : Raw}

end Api

/-! ### Functions -/

theorem Scene.grows_manager (scene : Scene) (manager : Manager) : scene.Grows { scene with manager := manager } :=
  ⟨rfl, fun _ _ known => known⟩

theorem bytes_of_kind {raw : Raw} (known : kindOf raw = .ok .string) : ∃ bytes, raw = .string bytes := by
  cases raw with
  | string bytes => exact ⟨bytes, rfl⟩
  | nil | boolean _ | integer _ | number _ | table _ | function _ | thread _ | file | failure _ _ => cases known

theorem Scene.Shows.text {raw : Raw} {value : Value} (shown : scene.Shows raw value) (known : kindOf raw = .ok .string) :
    value = .string value.textOrEmpty := by
  obtain ⟨bytes, rfl⟩ := bytes_of_kind known
  cases shown
  rfl

theorem Scene.Shows.string? {raw : Raw} {value : Value} (shown : scene.Shows raw value) : value.string? = raw.text? := by
  cases shown <;> rfl

theorem Scene.Shows.boolean? {raw : Raw} {value : Value} (shown : scene.Shows raw value) : value.boolean? = raw.flag? := by
  cases shown <;> rfl

/-- Arguments that are texts are collected as they are. -/
theorem Arguments.exec_collect_texts (runner : Runner) (site : Site) {arguments : Arguments} (texts : ∀ raw ∈ arguments, kindOf raw = .ok .string) :
    ∃ words : List String, List.Forall₂ scene.Shows arguments (words.map .string) ∧
      exec runner arguments.collect site scene = some (.ok (words.map .string), scene) := by
  induction arguments with
  | nil => exact ⟨[], .nil, rfl⟩
  | cons raw rest ih =>
    obtain ⟨first, others⟩ := List.forall_mem_cons.mp texts
    obtain ⟨bytes, rfl⟩ := bytes_of_kind first
    obtain ⟨words, shown, collected⟩ := ih others
    refine ⟨Utf8.decode bytes :: words, .cons (.string bytes) shown, ?_⟩
    exact exec_bind_ok collected _

namespace ApiCall

variable {dialect : Pattern.Dialect} {arguments : Arguments} {post : CallResult → Scene → Prop}

theorem yields_change (wanted : Change) (result : CallResult)
    (known : post result { scene with manager := scene.manager.change wanted }) :
    (do ask (.change wanted); return result : Act CallResult).Yields runner site scene post :=
  ⟨.ok result, _, rfl, known⟩

theorem sees_first (valid : scene.interpreter.registry.Valid) (raw : Raw) (rest : List Raw) :
    (Arguments.value (raw :: rest) 1).Sees runner site scene fun value after => after.Shows raw value :=
  Arguments.sees_value valid (show (raw :: rest)[0]? = some raw from rfl)

theorem sees_second (valid : scene.interpreter.registry.Valid) (first raw : Raw) (rest : List Raw) :
    (Arguments.value (first :: raw :: rest) 2).Sees runner site scene fun value after => after.Shows raw value :=
  Arguments.sees_value valid (show (first :: raw :: rest)[1]? = some raw from rfl)

theorem sees_window (valid : scene.interpreter.registry.Valid) (raw : Raw) :
    (window? [raw]).Sees runner site scene fun _ _ => True := by
  refine (sees_first valid raw []).bind fun value between calm _ => ?_
  refine (sees_host calm.registry).bind fun host after later _ => ?_
  exact sees_pure later.registry trivial

section Rules

variable {handle : Handle} {table : TableRef}

theorem sees_stringField (valid : scene.interpreter.registry.Valid) (known : scene.IsBare handle table) (name : String) :
    (stringField handle name).Sees runner site scene fun text? _ => text? = (scene.interpreter.heap.field table name).text? :=
  (Table.sees_getField valid known name).bind fun _ _ calm shown => sees_pure calm.registry shown.string?

theorem sees_booleanField (valid : scene.interpreter.registry.Valid) (known : scene.IsBare handle table) (name : String) :
    (booleanField handle name).Sees runner site scene fun flag? _ => flag? = (scene.interpreter.heap.field table name).flag? :=
  (Table.sees_getField valid known name).bind fun _ _ calm shown => sees_pure calm.registry shown.boolean?

theorem sees_patternField (valid : scene.interpreter.registry.Valid) (known : scene.IsBare handle table) (name : String) :
    (patternField dialect handle name).Sees runner site scene fun pattern? _ =>
      dialect.Reads (scene.interpreter.heap.field table name).text? pattern? := by
  refine (sees_stringField valid known name).bind fun text? between calm taken => ?_
  rw [← taken]
  cases text? with
  | none => exact sees_pure calm.registry .none
  | some text =>
    dsimp only
    split
    · next read => exact sees_pure calm.registry (.some read)
    · exact sees_throw calm.registry _

theorem sees_matcher (valid : scene.interpreter.registry.Valid) (known : scene.IsBare handle table) :
    (matcher dialect handle).Sees runner site scene fun matcher _ => matcher.Realizes dialect (.ofFields (scene.interpreter.heap.field table)) := by
  refine (sees_stringField valid known _).bind fun appId first calm appIdTaken => ?_
  refine (sees_patternField calm.registry (calm.isBare known) _).bind fun appName second more appNameTaken => ?_
  have known := more.isBare (calm.isBare known)
  refine (sees_patternField more.registry known _).bind fun title third still titleTaken => ?_
  have known := still.isBare known
  refine (sees_stringField still.registry known _).bind fun workspace fourth further workspaceTaken => ?_
  refine (sees_booleanField further.registry (further.isBare known) _).bind fun duringStartup last later startupTaken => ?_
  rw [calm.reads.field] at appNameTaken
  rw [more.reads.field, calm.reads.field] at titleTaken
  rw [still.reads.field, more.reads.field, calm.reads.field] at workspaceTaken
  rw [further.reads.field, still.reads.field, more.reads.field, calm.reads.field] at startupTaken
  exact sees_pure later.registry ⟨appIdTaken, appNameTaken, titleTaken, workspaceTaken, startupTaken⟩

/-- If nothing fails, the rule is made that the fields of the table ask for, and what follows means its commands. -/
theorem yields_rule (valid : scene.interpreter.registry.Valid) (rest : List Raw)
    (bare : (scene.interpreter.heap.table table).metatable = none) :
    (Api.onWindowDetected.run dialect (.table table :: rest)).Yields runner site scene fun result after =>
      ∃ rule : WindowRule, rule.Realizes dialect ⟨.ofFields (scene.interpreter.heap.field table), rule.commands⟩ ∧
        List.Forall₂ (after.Means scene.manager.host) rest rule.commands ∧
        result = .single (.boolean true) ∧ after.manager = scene.manager.change (.onWindowDetected rule) := by
  refine (sees_first valid (.table table) rest).yields fun value first calm shown => ?_
  cases shown with
  | table _ found object =>
    have known : first.IsBare _ table := ⟨found, (calm.metatables.same table).trans bare⟩
    refine (Arguments.sees_commands calm.registry rest).yields fun commands second more read => ?_
    have known := more.isBare known
    refine (sees_matcher more.registry known).yields fun matcher third still realizes => ?_
    have known := still.isBare known
    refine (sees_booleanField still.registry known _).yields fun checkFurther between later taken => ?_
    let rule : WindowRule := ⟨matcher, checkFurther.getD false, commands⟩
    have grown := (still.trans later).grows.trans (between.grows_manager (between.manager.change (.onWindowDetected rule)))
    rw [calm.manager] at read
    rw [more.reads.field, calm.reads.field] at realizes
    rw [still.reads.field, more.reads.field, calm.reads.field] at taken
    refine yields_change (.onWindowDetected rule) _ ⟨rule, ⟨realizes, congrArg (·.getD false) taken, rfl⟩, ?_, rfl, ?_⟩
    · exact read.imp fun _ _ known => grown.means known
    · exact congrArg (·.change (.onWindowDetected rule)) (calm.trans (more.trans (still.trans later))).manager

end Rules

/-- The answer to a command is put into its table, come what may, and the table is given back. -/
theorem exec_answer (runner : Runner) (site : Site) (valid : scene.interpreter.registry.Valid) {answer : Handle}
    {table : TableRef} (known : scene.IsBare answer table) (inside : table.index < scene.interpreter.heap.tables.size)
    (output : CommandOutput) :
    ∃ after, scene.Undisturbed after ∧ after.Reports table output ∧
      exec runner (do
        runCommand.report answer ("\n".intercalate output.stdout) ("\n".intercalate output.stderr) output.exitCode
        return CallResult.single (.table answer)) site scene = some (.ok (.single (.table answer)), after) := by
  let fields : List (String × Value) := [("stdout", .string ("\n".intercalate output.stdout)),
    ("stderr", .string ("\n".intercalate output.stderr)), ("exitCode", .ofInt output.exitCode)]
  obtain ⟨after, still, reported, filled⟩ : ∃ after, scene.Undisturbed after ∧
      exec runner (Table.setFields answer fields) site scene = some (.ok (), after) ∧ _ :=
    Table.exec_setFields runner site valid known fields (by simp [fields, Value.handle?, Value.ofInt])
  have stored := (filled inside (by simp [fields])).1
  simp only [fields, List.forall_mem_cons] at stored
  obtain ⟨stdout, stderr, exitCode, -⟩ := stored
  refine ⟨after, still, ⟨(Except.ok.inj stdout).symm, (Except.ok.inj stderr).symm, (Except.ok.inj exitCode).symm⟩, ?_⟩
  exact exec_bind_ok reported _

/-- A command that the host knows is run, and its output is told; of words that are none, what is wrong. -/
theorem exec_runCommand (runner : Runner) (site : Site) (valid : scene.interpreter.registry.Valid)
    (texts : ∀ raw ∈ arguments, kindOf raw = .ok .string) :
    ∃ words answer table after, exec runner (runCommand arguments) site scene = some (.ok (.single (.table answer)), after) ∧
      after.rawOf (.table answer) = .ok (.table table) ∧ List.Forall₂ after.Shows arguments (words.map .string) ∧
      match scene.manager.host.readCommand words with
      | .ok known => after.manager = scene.manager.execute known .empty ∧ after.Reports table (scene.manager.host.output known)
      | .error refusal => after.manager = scene.manager ∧ after.Reports table ⟨[], [refusal.message], -1⟩ := by
  obtain ⟨words, shown, collected⟩ := Arguments.exec_collect_texts runner site texts
  obtain ⟨answer, table, made, calm, known, -, inside, created⟩ := Table.exec_create_bare runner site valid
  have texts : (words.map Value.string).filterMap Value.string? = words := by
    simp [List.filterMap_map, Function.comp_def, Value.string?]
  have reached : exec runner (runCommand arguments) site scene = exec runner (do
      match made.manager.host.readCommand words with
      | .ok command =>
        let output ← ask (.runCommand command .empty)
        runCommand.report answer ("\n".intercalate output.stdout) ("\n".intercalate output.stderr) output.exitCode
      | .error refusal => runCommand.report answer "" refusal.message (-1)
      return CallResult.single (.table answer)) site made := by
    rw [runCommand, exec_bind_ok collected, exec_bind_ok created, texts]
    rfl
  rw [reached, calm.manager]
  cases read : scene.manager.host.readCommand words with
  | error refusal =>
    obtain ⟨after, still, told, answered⟩ := exec_answer runner site calm.registry known inside ⟨[], [refusal.message], -1⟩
    have whole := calm.trans still
    exact ⟨words, answer, table, after, answered, (still.isBare known).found, shown.imp fun _ _ seen => whole.grows.shows seen,
      by rw [read]; exact ⟨whole.manager, told⟩⟩
  | ok command =>
    -- The host has run the command by the time its output is put into the table.
    let ran : Scene := { made with manager := made.manager.execute command .empty }
    have later : made.Grows ran := made.grows_manager _
    have sound : ran.interpreter.registry.Valid := calm.registry
    have bare : ran.IsBare answer table := ⟨later.resolve known.found, known.bare⟩
    obtain ⟨after, still, told, answered⟩ := exec_answer runner site sound bare inside (made.manager.host.output command)
    have manager : after.manager = scene.manager.execute command .empty := by
      rw [still.manager, ← calm.manager]
    exact ⟨words, answer, table, after, answered, still.grows.resolve (later.resolve known.found),
      shown.imp fun _ _ seen => still.grows.shows (later.shows (calm.grows.shows seen)),
      by rw [read]; exact ⟨manager, calm.manager ▸ told⟩⟩

end ApiCall

/-- Nothing more than the check is done with the arguments. -/
theorem Native.sees_receive {function : Api} {arguments : Arguments} {known : Prop}
    (checked : (Check.arguments arguments function.arguments).Sees runner site scene fun _ _ => known) :
    ((Native.ofApi function).receive arguments).Sees runner site scene fun _ _ => known :=
  checked.bind fun _ _ calm accepted => sees_pure calm.registry accepted

end TileScript.Bridge
