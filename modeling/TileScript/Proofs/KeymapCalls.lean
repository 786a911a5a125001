import TileScript.Proofs.GreedyArguments
import TileScript.Proofs.NativeEffects

/-! Calls that edit the keymap, to the letter. Each asks for one edit, answers and makes it; what asks for none
is refused. -/

namespace TileScript

/-- What scripts ask the keymap for. -/
inductive Edit where
  | set (mode key : String) (commands : List Command)
  | del (mode key : String)
  | activate (mode : String)

namespace Edit

/-- What is done to the manager. A text that is no chord binds nothing. -/
def perform (edit : Edit) (manager : Manager) : Manager :=
  match edit with
  | .set mode key commands =>
    match Chord.ofString key with
    | .ok chord => manager.change (.bind mode ⟨chord, commands⟩)
    | .error _ => manager
  | .del mode key => manager.change (.unbind mode (Chord.wanted key))
  | .activate mode => manager.change (.activate mode)

def answer : Edit → List Script.Raw
  | .set _ key _ => [.boolean (Chord.ofString key).isOk]
  | .del _ _ => [.boolean true]
  | .activate _ => []

end Edit

namespace Bridge
open Script Attempt

/-- A call asks for an edit: its texts are those of the edit, and its other arguments mean the commands. -/
inductive Asks (scene : Scene) (host : Host) : Api → Arguments → Edit → Prop where
  | set (mode key : ByteArray) {first : Raw} {rest : List Raw} {commands : List Command} :
    List.Forall₂ (scene.Means host) (first :: rest) commands →
    Asks scene host .bind (.string mode :: .string key :: first :: rest) (.set (Utf8.decode mode) (Utf8.decode key) commands)
  | del (mode key : ByteArray) : Asks scene host .unbind [.string mode, .string key] (.del (Utf8.decode mode) (Utf8.decode key))
  | activate (mode : ByteArray) : Asks scene host .activateMode [.string mode] (.activate (Utf8.decode mode))

/-- The functions that edit the keymap. -/
def Api.editors : List Api := [.bind, .unbind, .activateMode]

/-- The arguments of a call that asks for an edit, if they turn out to mean commands. -/
inductive Wants : Api → Arguments → Prop where
  | set (mode key : ByteArray) {first : Raw} {rest : List Raw} (fits : ∀ raw ∈ first :: rest, Api.commandParameter.Fits raw) :
    Wants .bind (.string mode :: .string key :: first :: rest)
  | del (mode key : ByteArray) : Wants .unbind [.string mode, .string key]
  | activate (mode : ByteArray) : Wants .activateMode [.string mode]

variable {runner : Runner} {site : Site} {scene : Scene} {host : Host} {function : Api} {arguments : Arguments}

theorem wants_of_accepts (member : function ∈ Api.editors) (accepted : Accepts function.arguments arguments) :
    Wants function arguments := by
  simp only [Api.editors, List.mem_cons, List.not_mem_nil, or_false] at member
  rcases member with rfl | rfl | rfl
  · obtain ⟨_, _, rfl, named, _, _, rfl, written, first, _, rfl, command, taken, _, rfl, commands, rfl⟩ := accepted
    obtain ⟨mode, rfl⟩ := bytes_of_kind named
    obtain ⟨key, rfl⟩ := bytes_of_kind written
    rw [List.append_nil]
    exact .set mode key (List.forall_mem_cons.mpr ⟨command, commands⟩)
  · obtain ⟨_, _, rfl, named, _, _, rfl, written, rfl⟩ := accepted
    obtain ⟨mode, rfl⟩ := bytes_of_kind named
    obtain ⟨key, rfl⟩ := bytes_of_kind written
    exact .del mode key
  · obtain ⟨_, _, rfl, named, rfl⟩ := accepted
    obtain ⟨mode, rfl⟩ := bytes_of_kind named
    exact .activate mode

theorem Scene.Means.fits {raw : Raw} {command : Command} (means : scene.Means host raw command) :
    Api.commandParameter.Fits raw := by
  obtain ⟨value, shown, read⟩ := means
  cases shown with
  | string _ => exact ⟨.kind .string, by simp, rfl⟩
  | function _ _ _ => exact ⟨.kind .function, by simp, rfl⟩
  | nil | boolean _ | integer _ | number _ | table _ _ _ => cases read

theorem fits_of_means {raws : List Raw} {commands : List Command} (means : List.Forall₂ (scene.Means host) raws commands) :
    ∀ raw ∈ raws, Api.commandParameter.Fits raw := by
  induction means with
  | nil => simp
  | cons first _ ih => exact List.forall_mem_cons.mpr ⟨first.fits, ih⟩

theorem Asks.wants {edit : Edit} (asks : Asks scene host function arguments edit) : Wants function arguments := by
  cases asks with
  | set mode key means =>
    exact .set mode key (fits_of_means means)
  | del mode key => exact .del mode key
  | activate mode => exact .activate mode

/-! ### Checks -/

namespace Check

theorem matches_text (bytes : ByteArray) : Matches runner site (.ofKind .string) (.string bytes) scene scene := rfl

theorem matches_command {raw : Raw} (fits : Api.commandParameter.Fits raw) : Matches runner site Api.commandParameter raw scene scene := by
  obtain ⟨type, member, known⟩ := fits
  simp only [List.mem_cons, List.not_mem_nil, or_false] at member
  rcases member with rfl | rfl
  · obtain ⟨bytes, rfl⟩ := bytes_of_kind known
    rfl
  · cases raw with
    | function _ => rfl
    | nil | boolean _ | integer _ | number _ | string _ | table _ | thread _ | file | failure _ _ => cases known

theorem run_of_matches {parameter : Parameter} {raws : List Raw}
    (fits : ∀ raw ∈ raws, Matches runner site parameter raw scene scene) : Run runner site parameter raws scene scene := by
  induction raws with
  | nil => exact .none scene
  | cons raw rest ih =>
    obtain ⟨first, others⟩ := List.forall_mem_cons.mp fits
    exact .more first (ih others)

theorem run_commands {raws : List Raw} (fits : ∀ raw ∈ raws, Api.commandParameter.Fits raw) :
    Run runner site Api.commandParameter raws scene scene :=
  run_of_matches fun raw member => matches_command (fits raw member)

end Check

theorem Native.exec_received {before after : Scene}
    (blocks : Check.Blocks runner site function.arguments arguments [] before after) :
    exec runner ((Native.ofApi function).receive arguments) site before = some (.ok (), after) := by
  have checked : exec runner (Check.arguments arguments function.arguments) site before = some (.ok (), after) :=
    Check.exec_fromPlace_taken blocks arguments.length 1
  exact exec_bind_ok checked _

/-- Only a look at kinds is taken. -/
theorem Wants.exec_receive (wants : Wants function arguments) :
    exec runner ((Native.ofApi function).receive arguments) site scene = some (.ok (), scene) := by
  have blocks : Check.Blocks runner site function.arguments arguments [] scene scene := by
    cases wants with
    | @set mode key first rest fits =>
      obtain ⟨command, commands⟩ := List.forall_mem_cons.mp fits
      have variadic : Check.Blocks runner site [.variadic Api.commandParameter] (rest ++ []) [] scene scene :=
        .variadic (Check.run_commands commands) (.atEnd scene) (.none [] scene)
      rw [List.append_nil] at variadic
      exact .fixed (Check.matches_text mode) (.fixed (Check.matches_text key) (.fixed (Check.matches_command command) variadic))
    | del mode key => exact .fixed (Check.matches_text mode) (.fixed (Check.matches_text key) (.none [] scene))
    | activate mode => exact .fixed (Check.matches_text mode) (.none [] scene)
  exact Native.exec_received blocks

/-! ### Edits -/

theorem Arguments.exec_text {place : Nat} {bytes : ByteArray} (given : arguments[place]? = some (.string bytes)) :
    exec runner (arguments.value (place + 1 : Nat)) site scene = some (.ok (.string (Utf8.decode bytes)), scene) := by
  exact exec_bind_ok (exec_raw given) _

/-- The edit is made that is asked for, or none is. -/
def Edits (function : Api) (arguments : Arguments) (before : Scene) (result : Except Error CallResult) (after : Scene) : Prop :=
  match result with
  | .ok result => ∃ edit, Asks after before.manager.host function arguments edit ∧ after.Conveys result edit.answer ∧
      after.manager = edit.perform before.manager
  | .error _ => after.manager = before.manager ∧ ∀ later edit, ¬ Asks later before.manager.host function arguments edit

/-- Commands are read before the chord is. -/
theorem ApiCall.exec_bindChord (mode key : ByteArray) {rest : List Raw} {read : Except Error (List Command)} {between : Scene} :
    exec runner (Arguments.commands rest) site scene = some (read, between) →
    exec runner (ApiCall.bindChord (.string mode :: .string key :: rest)) site scene =
      match read with
      | .error error => some (.error error, between)
      | .ok commands => some (.ok (.single (.boolean (Chord.ofString (Utf8.decode key)).isOk)),
        { between with manager := (Edit.set (Utf8.decode mode) (Utf8.decode key) commands).perform between.manager }) := by
  intro ran
  let arguments : Arguments := .string mode :: .string key :: rest
  have first : exec runner (arguments.value 1) site scene = some (.ok (.string (Utf8.decode mode)), scene) :=
    Arguments.exec_text (show arguments[0]? = _ from rfl)
  have second : exec runner (arguments.value 2) site scene = some (.ok (.string (Utf8.decode key)), scene) :=
    Arguments.exec_text (show arguments[1]? = _ from rfl)
  rw [ApiCall.bindChord, exec_bind_ok first, exec_bind_ok second]
  cases read with
  | error error => exact exec_bind_error ran _
  | ok commands =>
    refine (exec_bind_ok ran _).trans ?_
    have text : (Value.string (Utf8.decode key)).textOrEmpty = Utf8.decode key := rfl
    simp only [Edit.perform, text]
    cases Chord.ofString (Utf8.decode key) <;> rfl

theorem Wants.exec_run (wants : Wants function arguments) (valid : scene.interpreter.registry.Valid)
    (dialect : Pattern.Dialect) : ∃ result after, exec runner (function.run dialect arguments) site scene = some (result, after) ∧
      Edits function arguments scene result after := by
  cases wants with
  | @set mode key first rest fits =>
    obtain ⟨read, between, ran, same, known⟩ : (Arguments.commands (first :: rest)).Finds runner site scene _ :=
      Arguments.finds_commands valid (first :: rest)
    have run : exec runner (Api.bind.run dialect (.string mode :: .string key :: first :: rest)) site scene = _ :=
      ApiCall.exec_bindChord mode key ran
    cases read with
    | error error =>
      refine ⟨.error error, between, run, same.manager, fun later edit asks => ?_⟩
      cases asks with
      | set _ _ means => exact known later _ means
    | ok commands =>
      let edit : Edit := .set (Utf8.decode mode) (Utf8.decode key) commands
      have later := between.grows_manager (edit.perform between.manager)
      have made : edit.perform between.manager = edit.perform scene.manager := congrArg edit.perform same.manager
      exact ⟨_, _, run, edit, .set mode key (known.imp fun _ _ meant => later.means meant), .single rfl, made⟩
  | del mode key => exact ⟨_, _, rfl, _, .del mode key, .single rfl, rfl⟩
  | activate mode => exact ⟨_, _, rfl, _, .activate mode, .none, rfl⟩

/-- Every call ends. It gives back the answer to an edit that was asked for and is made, or is refused if none
was asked for. -/
theorem Native.exec_editor (valid : scene.interpreter.registry.Valid) (member : function ∈ Api.editors) (code : HostCode)
    (arguments : Arguments) :
    ∃ result after, exec runner ((Native.ofApi function).call code arguments) site scene = some (result, after) ∧
      match result with
      | .ok results => ∃ edit, Asks after scene.manager.host function arguments edit ∧ results = edit.answer ∧
          after.manager = edit.perform scene.manager
      | .error _ => after.manager = scene.manager ∧ ∀ later edit, ¬ Asks later scene.manager.host function arguments edit := by
  by_cases wants : Wants function arguments
  · obtain ⟨result, after, ran, edits⟩ : ∃ result after, exec runner (function.run code.patterns arguments) site scene = some (result, after) ∧
        Edits function arguments scene result after := wants.exec_run valid code.patterns
    rw [exec_call, wants.exec_receive]
    change ∃ result after, (exec runner (function.run code.patterns arguments) site scene).bind _ = _ ∧ _
    rw [ran]
    cases result with
    | error error => exact ⟨_, after, rfl, edits⟩
    | ok result =>
      obtain ⟨edit, asks, conveys, made⟩ := edits
      exact ⟨_, after, conveys.exec_pass, edit, asks, rfl, made⟩
  · have bare : ∀ table rest, function = .onWindowDetected → arguments = .table table :: rest →
        (scene.interpreter.heap.table table).metatable = none := by
      rintro table rest rfl
      simp [Api.editors] at member
    obtain ⟨result, between, ran, same, known⟩ : ((Native.ofApi function).receive arguments).Sees runner site scene _ :=
      sees_receive (Check.sees_arguments valid function arguments bare)
    cases result with
    | ok _ => exact absurd (wants_of_accepts member (known () rfl)) wants
    | error message =>
      refine ⟨.error message, between, ?_, same.manager, fun later edit asks => wants asks.wants⟩
      rw [exec_call, ran]
      rfl

end Bridge
end TileScript
