import TileScript.Proofs.KeymapCalls
import TileScript.Proofs.KeymapSessions

/-! The keymap in the long run. Its modes are ordered maps from chords to commands: each call of a function that
edits it changes one of them, or none, and a chord runs the commands that were last set for it. -/

namespace TileScript
open Bridge Script Attempt

/-- What is bound in each mode, in order. -/
abbrev Content := String → Option (List Binding)

/-- The commands of a chord in a mode, if it has any. -/
def Modes.commands (modes : Modes) (mode : String) (chord : Chord) : Option (List Command) :=
  ((modes.get mode).lookup chord).map (·.commands)

theorem Modes.commands_content (modes : Modes) (mode : String) (chord : Chord) :
    modes.commands mode chord = (((modes.content mode).getD []).find? (·.chord == chord)).map (·.commands) := by
  rw [commands, Mode.lookup, bindings_get]

/-! ### Edits -/

namespace Edit

/-- What an edit makes of the modes. One that binds a chord makes the mode, and no edit touches another mode. -/
def effect (edit : Edit) (content : Content) : Content :=
  match edit with
  | .set mode key commands =>
    match Chord.ofString key with
    | .ok chord => fun name => if name = mode then some (Mode.put ⟨chord, commands⟩ ((content mode).getD [])) else content name
    | .error _ => content
  | .del mode key =>
    match Chord.ofString key with
    | .ok chord => fun name => if name = mode then (content mode).map (·.filter (·.chord ≠ chord)) else content name
    | .error _ => content
  | .activate _ => content

/-- The commands of a chord, as an edit leaves them. -/
def remember (mode : String) (chord : Chord) (edit : Edit) (bound : Option (List Command)) : Option (List Command) :=
  match edit with
  | .set named key commands => if named = mode ∧ (Chord.ofString key).toOption = some chord then some commands else bound
  | .del named key => if named = mode ∧ (Chord.ofString key).toOption = some chord then none else bound
  | .activate _ => bound

variable {manager : Manager}

theorem isKeymap_perform (keymap : manager.config.modes.IsKeymap) (edit : Edit) :
    (edit.perform manager).config.modes.IsKeymap := by
  cases edit with
  | set mode key commands =>
    rw [perform]
    cases read : Chord.ofString key with
    | ok chord => exact Manager.isKeymap_change keymap ⟨key, read⟩
    | error _ => exact keymap
  | del mode key => exact Manager.isKeymap_change keymap trivial
  | activate mode => exact keymap

theorem content_perform (keymap : manager.config.modes.IsKeymap) (edit : Edit) :
    (edit.perform manager).config.modes.content = edit.effect manager.config.modes.content := by
  cases edit with
  | set mode key commands =>
    rw [perform, effect]
    cases Chord.ofString key with
    | ok chord => exact Manager.content_bind keymap mode ⟨chord, commands⟩
    | error _ => rfl
  | del mode key => exact Manager.content_unbind keymap mode key
  | activate mode => rfl

theorem commands_perform (keymap : manager.config.modes.IsKeymap) (edit : Edit) (mode : String) (chord : Chord) :
    (edit.perform manager).config.modes.commands mode chord =
      edit.remember mode chord (manager.config.modes.commands mode chord) := by
  rw [Modes.commands_content, Modes.commands_content, content_perform keymap]
  cases edit with
  | set named key commands =>
    rw [effect, remember]
    cases Chord.ofString key with
    | error _ => simp [Except.toOption]
    | ok read =>
      have distinct := (keymap.get named).1.chords
      rw [Modes.bindings_get] at distinct
      by_cases same : mode = named
      · subst same
        by_cases again : read = chord <;> simp [Mode.find?_put distinct, Except.toOption, again]
      · simp [same, Ne.symm same]
  | del named key =>
    rw [effect, remember]
    cases Chord.ofString key with
    | error _ => simp [Except.toOption]
    | ok read =>
      by_cases same : mode = named
      · subst same
        cases manager.config.modes.content mode with
        | none => simp
        | some bindings =>
          simp only [if_true, Option.map_some, Option.getD_some, Mode.find?_filter_chord, Except.toOption, true_and,
            Option.some.injEq]
          by_cases again : read = chord
          · rw [if_pos again, if_pos again.symm, Option.map_none]
          · rw [if_neg again, if_neg (Ne.symm again)]
      · simp [same, Ne.symm same]
  | activate named => rfl

end Edit

/-! ### Courses -/

/-- A reload gets to a world in which the init script, if there is one, runs with the new engine. -/
def Engine.Restarts (engine : Engine) (runtime : Runtime) (world : World) (renewed : Engine) (start : World) : Prop :=
  ∀ file, (engine.reload file).exec runtime world =
    ((renewed.runInitFile file).exec runtime start).map fun (result, after) => (.ok (renewed, result), after)

/-- From the end of the old context to the init script, the modes stay as they are. -/
theorem Engine.Leaves.restarts {engine : Engine} {runtime : Runtime} {world left : World}
    (leaves : engine.Leaves runtime world left) :
    ∃ renewed start, engine.Restarts runtime world renewed start ∧
      start.manager.config.modes = left.manager.config.modes := by
  obtain ⟨made, -, manager, started⟩ := exec_start_initFile runtime left engine.initPath
  exact ⟨_, activated made, fun file => (leaves.exec_reload file).trans (started file),
    congrArg (fun manager => manager.config.modes) manager⟩

/-- Something that is done to the keymap: a function is called, or the configuration reset by a reload. -/
inductive Turn where
  | call (function : Api) (arguments : Arguments) (result : Except String (List Raw)) (before after : Scene)
  | reload

/-- Turns, one after the other. Between them anything may have happened that left the modes as they were. -/
inductive Course : Modes → List Turn → Modes → Prop where
  | done (modes : Modes) : Course modes [] modes
  | call {runner : Runner} {site : Site} {code : HostCode} {function : Api} {arguments : Arguments}
    {result : Except String (List Raw)} {before after : Scene} {turns : List Turn} {modes : Modes} :
    before.interpreter.registry.Valid → function ∈ Api.editors →
    ((Native.ofApi function).call code arguments).exec runner site before = some (result, after) →
    Course after.manager.config.modes turns modes →
    Course before.manager.config.modes (.call function arguments result before after :: turns) modes
  | reload {world : World} {turns : List Turn} {modes : Modes} :
    Course world.reset.manager.config.modes turns modes → Course world.manager.config.modes (.reload :: turns) modes

/-- What comes of a turn. -/
inductive Upshot where
  | edited (edit : Edit)
  | refused
  | reloaded

namespace Upshot

def effect (upshot : Upshot) (content : Content) : Content :=
  match upshot with
  | .edited edit => edit.effect content
  | .refused => content
  | .reloaded => fun name => if name = "main" then some [] else none

def remember (mode : String) (chord : Chord) (upshot : Upshot) (bound : Option (List Command)) : Option (List Command) :=
  match upshot with
  | .edited edit => edit.remember mode chord bound
  | .refused => bound
  | .reloaded => none

end Upshot

/-- A call gives back the answer to an edit that was asked for, or none was asked for and it is refused. -/
inductive Turn.Comes : Turn → Upshot → Prop where
  | edited {function : Api} {arguments : Arguments} {before after : Scene} {edit : Edit} :
    Asks after before.manager.host function arguments edit →
    Comes (.call function arguments (.ok edit.answer) before after) (.edited edit)
  | refused {function : Api} {arguments : Arguments} {message : String} {before after : Scene} :
    (∀ later edit, ¬ Asks later before.manager.host function arguments edit) →
    Comes (.call function arguments (.error message) before after) .refused
  | reloaded : Comes .reload .reloaded

/-- What an upshot makes of the modes. -/
structure Upshot.Makes (upshot : Upshot) (before after : Modes) : Prop where
  keymap : after.IsKeymap
  content : after.content = upshot.effect before.content
  commands : ∀ mode chord, after.commands mode chord = upshot.remember mode chord (before.commands mode chord)

theorem Turn.comes_call {runner : Runner} {site : Site} {code : HostCode} {function : Api} {arguments : Arguments}
    {result : Except String (List Raw)} {before after : Scene} (keymap : before.manager.config.modes.IsKeymap)
    (valid : before.interpreter.registry.Valid) (member : function ∈ Api.editors)
    (ran : ((Native.ofApi function).call code arguments).exec runner site before = some (result, after)) :
    ∃ upshot, Turn.Comes (.call function arguments result before after) upshot ∧
      upshot.Makes before.manager.config.modes after.manager.config.modes := by
  obtain ⟨_, _, ran', known⟩ : ∃ result after, ((Native.ofApi function).call code arguments).exec runner site before =
      some (result, after) ∧ _ := Native.exec_editor valid member code arguments
  cases ran.symm.trans ran'
  cases result with
  | ok results =>
    obtain ⟨edit, asks, rfl, made⟩ := known
    rw [made]
    exact ⟨.edited edit, .edited asks, Edit.isKeymap_perform keymap edit, Edit.content_perform keymap edit,
      Edit.commands_perform keymap edit⟩
  | error message =>
    rw [known.1]
    exact ⟨.refused, .refused known.2, keymap, rfl, fun _ _ => rfl⟩

theorem Modes.content_initial : Config.initial.modes.content = fun name => if name = "main" then some [] else none := by
  have entry : Config.initial.modes = Modes.insert "main" (.empty "main") [] := rfl
  rw [entry, Modes.content_insert]
  rfl

theorem World.makes_reset (world : World) :
    Upshot.reloaded.Makes world.manager.config.modes world.reset.manager.config.modes := by
  refine ⟨Modes.isKeymap_initial, Modes.content_initial, fun mode chord => ?_⟩
  have nothing : (Config.initial.modes.content mode).getD [] = [] := by
    rw [Modes.content_initial]
    by_cases main : mode = "main" <;> simp [main]
  change Config.initial.modes.commands mode chord = none
  rw [Modes.commands_content, nothing]
  rfl

/-- What comes of turns, and what they make of the modes. -/
structure Unfolds (before : Modes) (turns : List Turn) (upshots : List Upshot) (after : Modes) : Prop where
  keymap : after.IsKeymap
  comes : List.Forall₂ Turn.Comes turns upshots
  content : after.content = upshots.foldl (fun content upshot => upshot.effect content) before.content
  commands : ∀ mode chord, after.commands mode chord =
    upshots.foldl (fun bound upshot => upshot.remember mode chord bound) (before.commands mode chord)

theorem Unfolds.cons {before between after : Modes} {turn : Turn} {turns : List Turn} {upshot : Upshot} {upshots : List Upshot}
    (comes : turn.Comes upshot) (made : upshot.Makes before between) (rest : Unfolds between turns upshots after) :
    Unfolds before (turn :: turns) (upshot :: upshots) after where
  keymap := rest.keymap
  comes := .cons comes rest.comes
  content := by rw [rest.content, made.content, List.foldl_cons]
  commands mode chord := by rw [rest.commands, made.commands, List.foldl_cons]

theorem Course.unfolds {before after : Modes} {turns : List Turn} (course : Course before turns after) (keymap : before.IsKeymap) :
    ∃ upshots, Unfolds before turns upshots after := by
  induction course with
  | done modes => exact ⟨[], keymap, .nil, rfl, fun _ _ => rfl⟩
  | call valid member ran _ ih =>
    obtain ⟨upshot, comes, made⟩ := Turn.comes_call keymap valid member ran
    obtain ⟨upshots, rest⟩ := ih made.keymap
    exact ⟨_, rest.cons comes made⟩
  | @reload world _ _ _ ih =>
    obtain ⟨upshots, rest⟩ := ih world.makes_reset.keymap
    exact ⟨_, rest.cons .reloaded world.makes_reset⟩

/-- From any session on, and whatever calls and reloads follow, no chord is bound twice in a mode, and calls and
reloads do to the modes what they are for. All calls end. A reload goes on from the reset configuration, and gets to
the init script when the old context has come to its end, with the modes as the calls of its tables have left them. -/
theorem keymap_finite_map {session : Session} (reachable : session.Reachable) {turns : List Turn} {modes : Modes}
    (course : Course session.world.manager.config.modes turns modes) :
    ((∃ main, modes.find? "main" = some main) ∧ (modes.map (·.1)).Nodup ∧
      ∀ entry ∈ modes, entry.2.name = entry.1 ∧
        (entry.2.bindings.map (·.chord)).Nodup ∧ (entry.2.bindings.map (·.description)).Nodup ∧
        ∀ binding ∈ entry.2.bindings, Chord.ofString binding.description = .ok binding.chord) ∧
    (∃ upshots, List.Forall₂ Turn.Comes turns upshots ∧
      modes.content = upshots.foldl (fun content upshot => upshot.effect content) session.world.manager.config.modes.content ∧
      ∀ mode chord, modes.commands mode chord = upshots.foldl (fun bound upshot => upshot.remember mode chord bound)
        (session.world.manager.config.modes.commands mode chord)) ∧
    (∀ (runner : Runner) (site : Site) (code : HostCode) (scene : Scene), scene.interpreter.registry.Valid →
      ∀ function ∈ Api.editors, ∀ arguments, ∃ result after,
        ((Native.ofApi function).call code arguments).exec runner site scene = some (result, after)) ∧
    ∀ (engine : Engine) (runtime : Runtime) (world : World),
      (∀ file, (engine.reload file).exec runtime world =
        (Live.closeContext engine.context >>= fun _ => Engine.start engine.initPath file).exec runtime world.reset) ∧
      (∀ left, engine.Leaves runtime world left → ∃ renewed start, engine.Restarts runtime world renewed start ∧
        start.manager.config.modes = left.manager.config.modes) ∧
      (world.IsIdle engine.context → ∃ renewed start, engine.Restarts runtime world renewed start ∧
        start.manager.config.modes = world.reset.manager.config.modes) := by
  obtain ⟨upshots, unfolds⟩ := course.unfolds reachable.keyed.keymap
  have keymap := unfolds.keymap
  refine ⟨⟨keymap.main, ?_, fun entry member => ?_⟩, ⟨upshots, unfolds.comes, unfolds.content, unfolds.commands⟩, ?_, ?_⟩
  · have apart : ∀ {first second : String × Mode}, first.1 < second.1 → first.1 ≠ second.1 := by
      intro first second smaller same
      rw [same] at smaller
      exact String.lt_irrefl _ smaller
    exact List.pairwise_map.mpr (keymap.ascending.imp apart)
  · have keyed := keymap.keyed entry member
    exact ⟨keymap.named entry member, keyed.chords, keyed.descriptions, fun binding bound => (keyed.written binding bound).ofString⟩
  · intro runner site code scene valid function member arguments
    obtain ⟨result, after, ran, -⟩ := Native.exec_editor valid member code arguments
    exact ⟨result, after, ran⟩
  · intro engine runtime world
    exact ⟨fun file => rfl, fun left leaves => leaves.restarts, fun idle => (Engine.leaves_of_idle idle runtime).restarts⟩

/-- A chord that a new session binds has its commands. -/
theorem keymap_finite_map_set : ∃ session : Session, session.Reachable ∧ ∃ turn modes,
    Course session.world.manager.config.modes [turn] modes ∧
      (∃ upshots, List.Forall₂ Turn.Comes [turn] upshots ∧ modes.content =
        upshots.foldl (fun content upshot => upshot.effect content) session.world.manager.config.modes.content) ∧
      modes.commands "main" ⟨[.alt], "h"⟩ = some [.host ⟨["focus", "left"]⟩] := by
  obtain ⟨world, created, manager⟩ := Engine.create_ends (.plain 0) (.initial .blank) "init.lua"
  have reachable : Session.Reachable ⟨⟨⟨0⟩, "init.lua"⟩, world⟩ := .create (.plain 0) rfl created
  let scene : Scene := ⟨⟨1⟩, .initial, world.manager, []⟩
  have member : Api.bind ∈ Api.editors := by simp [Api.editors]
  obtain ⟨result, after, ran, -⟩ : ∃ result after, ((Native.ofApi .bind).call .none
      [.ofString "main", .ofString "Alt-H", .ofString "focus left"]).exec (fun _ _ => none) .host scene =
      some (result, after) ∧ _ := Native.exec_editor Registry.empty_valid member .none _
  have bound : (((Native.ofApi .bind).call .none [.ofString "main", .ofString "Alt-H", .ofString "focus left"]).exec
      (fun _ _ => none) .host ⟨⟨1⟩, .initial, .initial .blank, []⟩).map
      (fun ran => ran.2.manager.config.modes.commands "main" ⟨[.alt], "h"⟩) =
      some (some [.host ⟨["focus", "left"]⟩]) := by decide +kernel
  rw [show Manager.initial .blank = world.manager from manager.symm, ran] at bound
  have course : Course scene.manager.config.modes [_] after.manager.config.modes :=
    .call Registry.empty_valid member ran (.done _)
  obtain ⟨-, ⟨upshots, comes, content, -⟩, -⟩ := keymap_finite_map reachable course
  exact ⟨_, reachable, _, _, course, ⟨upshots, comes, content⟩, Option.some.inj bound⟩

end TileScript
