import Mathlib.Data.List.TakeWhile
import TileScript.Proofs.CallProtocol
import TileScript.Proofs.Unprotected

/-! What the host is told when a function that was called by a function that was called by another one raises something.
Every native function on the way puts its name in front, once; scripts on the way add nothing. -/

namespace TileScript.Bridge
open Script Attempt

/-! ### Texts -/

/-- A message with names in front. -/
def prefixed (names : List String) (message : String) : String :=
  names.foldr (fun name text => name ++ ": " ++ text) message

/-- The same, where every name is put in front of what is left of the text without an account of calls. -/
def told : List String → String → String
  | [], message => message
  | name :: names, message => name ++ ": " ++ withoutTrace (told names message)

instance (text : String) : Decidable (IsUntraced text) := inferInstanceAs (Decidable (¬ _))

/-- All of the heading but its last character, which is its only colon. -/
def headingStem : List Char := "\nstack traceback".toList

theorem traceHeading_toList : traceHeading.toList = headingStem ++ [':'] := by decide

theorem heading_colon {front tail : List Char} : headingStem ++ [':'] ≠ front ++ ':' :: ' ' :: tail := by
  intro same
  have shorter : headingStem = front ++ ':' :: (' ' :: tail).dropLast := by simpa using congrArg List.dropLast same
  have within : ':' ∈ headingStem := by simp [shorter]
  exact absurd within (by decide)

/-- The heading does not reach over a colon with a space behind it. -/
theorem heading_infix {front rest : List Char} :
    headingStem ++ [':'] <:+: front ++ ':' :: ' ' :: rest ↔
      headingStem ++ [':'] <:+: front ++ [':'] ∨ headingStem ++ [':'] <:+: rest := by
  have noSpace {tail : List Char} : headingStem ++ [':'] ≠ ' ' :: tail := fun same => nomatch (List.cons.inj same).1
  have whole : front ++ ':' :: ' ' :: rest = (front ++ [':']) ++ ' ' :: rest := by simp
  rw [whole]
  constructor
  · rintro ⟨left, right, parts⟩
    obtain ⟨middle, within, -⟩ | ⟨middle, within, beyond⟩ := List.append_eq_append_iff.mp parts
    · exact .inl ⟨left, middle, within.symm⟩
    cases middle with
    | nil => exact .inl ⟨left, [], by simpa using within⟩
    | cons space middle =>
      obtain ⟨rfl, rfl⟩ := List.cons.inj beyond
      -- The heading reaches over the space, so it begins before the colon, at the colon, at the space or behind it.
      obtain ⟨start, before, heading⟩ | ⟨start, -, behind⟩ := List.append_eq_append_iff.mp within
      · obtain rfl | ⟨start, last, rfl⟩ := List.eq_nil_or_concat start
        · exact absurd heading noSpace
        · obtain ⟨-, colon⟩ := List.append_inj' (before.trans (by simp : _ = (left ++ start) ++ [last])) rfl
          cases colon
          have across : headingStem ++ [':'] = start ++ ':' :: ' ' :: middle := by simpa using heading
          exact absurd across heading_colon
      · cases start with
        | nil => exact absurd behind.symm noSpace
        | cons space start =>
          obtain ⟨-, rfl⟩ := List.cons.inj behind
          exact .inr ⟨start, right, by simp⟩
  · rintro (early | late)
    · exact early.trans (List.prefix_append _ _).isInfix
    · exact late.trans ((List.suffix_cons _ _).trans (List.suffix_append _ _)).isInfix

theorem isUntraced_named {name text : String} :
    IsUntraced (name ++ ": " ++ text) ↔ IsUntraced (name ++ ":") ∧ IsUntraced text := by
  have whole : (name ++ ": " ++ text).toList = name.toList ++ ':' :: ' ' :: text.toList := by
    simp [String.toList_append, show ": ".toList = [':', ' '] from rfl]
  have front : (name ++ ":").toList = name.toList ++ [':'] := by
    simp [String.toList_append, show ":".toList = [':'] from rfl]
  rw [IsUntraced, IsUntraced, IsUntraced, whole, front, traceHeading_toList, heading_infix, not_or]

theorem isUntraced_prefixed {names : List String} {message : String} :
    IsUntraced (prefixed names message) ↔ (∀ name ∈ names, IsUntraced (name ++ ":")) ∧ IsUntraced message := by
  induction names with
  | nil => simp [prefixed]
  | cons name rest ih =>
    rw [List.forall_mem_cons, and_assoc, ← ih]
    exact isUntraced_named

/-- Nothing is lost of texts without an account of calls. -/
theorem told_of_untraced {names : List String} {message : String} (untraced : IsUntraced (prefixed names message)) :
    told names message = prefixed names message := by
  induction names with
  | nil => rfl
  | cons name rest ih =>
    -- A text inside is a part of the whole one, so it has no heading either.
    have inner : IsUntraced (prefixed rest message) := (isUntraced_named.mp untraced).2
    rw [told, ih inner, inner.whole]
    rfl

/-! ### Scripts -/

variable {runner : Runner} {code : HostCode} {budget : Nat} {scene there after : Scene} {task inner : Task}

/-- A program comes to run a task, in some scene. -/
inductive Reaches {α : Type} (runner : Runner) : Program BridgeRequest α → Scene → Task → Scene → Prop where
  | run {task : Task} {next : Outcome → Program BridgeRequest α} {scene : Scene} :
    Reaches runner (.run task next) scene task scene
  | request {β : Type} {request : BridgeRequest β} {next : β → Program BridgeRequest α} {scene there : Scene}
    {task : Task} (onward : Reaches runner (next (scene.answer request).1) (scene.answer request).2 task there) :
    Reaches runner (.request request next) scene task there
  | past {earlier task : Task} {next : Outcome → Program BridgeRequest α} {scene between there : Scene} {outcome : Outcome}
    (ran : runner earlier scene = some (outcome, between)) (onward : Reaches runner (next outcome) between task there) :
    Reaches runner (.run earlier next) scene task there

theorem Reaches.reached {α : Type} {program : Program BridgeRequest α}
    (reaches : Reaches (perform code budget) program scene inner there) (reached : scene.Reached) : there.Reached := by
  induction reaches with
  | run => exact reached
  | request _ ih => exact ih (reached.answer _)
  | past ran _ ih => exact ih (Scene.Reached.conserved.perform ran reached)

/-- A call that is not protected has the handler of the place, and what it raises is raised there and then. -/
theorem Reaches.unprotected {α : Type} {handler : Option Raw} {fits : α → Prop} {computation : Eval α}
    (unprotected : computation.UnprotectedFor handler fits)
    (reaches : Reaches runner (ofEval computation) scene inner there) :
    inner.handler = handler ∧ ∀ raised after, runner inner there = some (.error raised, after) →
      evaluation runner computation scene = some (.error raised, after) := by
  unfold Eval.UnprotectedFor at unprotected
  unfold evaluation ofEval at *
  generalize computation.run = program at unprotected reaches ⊢
  induction program generalizing scene with
  | pure result => cases reaches
  | request request next ih =>
    cases reaches with
    | request onward => exact ih _ (unprotected _) onward
  | run earlier next ih =>
    obtain ⟨same, raises, returns⟩ := unprotected
    change _ ∧ ∀ raised after, _ → interpret runner (.run earlier fun outcome => (next outcome).lift _) scene = _
    rw [interpret_run]
    cases reaches with
    | run =>
      refine ⟨same, fun raised after ran => ?_⟩
      rw [ran, Option.bind_some]
      dsimp only
      rw [raises raised]
      rfl
    | @past _ _ _ _ _ _ outcome passed onward =>
      rw [passed, Option.bind_some]
      cases outcome with
      | ok values => exact ih _ (returns values) onward
      | error raised =>
        -- The program has ended, so it cannot reach anything any more.
        dsimp only at onward
        rw [raises raised] at onward
        cases onward

theorem fits_of_unprotected {α : Type} {handler : Option Raw} {fits : α → Prop} {computation : Eval α}
    (unprotected : computation.UnprotectedFor handler fits) {value : α}
    (ran : evaluation runner computation scene = some (.ok value, after)) : fits value := by
  unfold Eval.UnprotectedFor at unprotected
  unfold evaluation ofEval at ran
  generalize computation.run = program at unprotected ran
  induction program generalizing scene with
  | pure result =>
    cases ran
    exact unprotected value rfl
  | request request next ih => exact ih _ (unprotected _) ran
  | run task next ih =>
    obtain ⟨-, raises, returns⟩ := unprotected
    change interpret runner (.run task fun outcome => (next outcome).lift _) scene = _ at ran
    rw [interpret_run] at ran
    obtain ⟨⟨outcome, between⟩, -, onward⟩ := Option.bind_eq_some_iff.mp ran
    cases outcome with
    | ok values => exact ih _ (returns values) onward
    | error raised =>
      dsimp only at onward
      rw [raises raised] at onward
      cases onward

/-- What is left of a task after a step has its handler. -/
theorem stepOf_handler {next : Task} (stepped : interpret runner (stepOf code task) scene = some (.again next, after)) :
    next.handler = task.handler := by
  cases task with
  | execute machine =>
    rw [stepOf, interpret_bind] at stepped
    obtain ⟨⟨outcome, between⟩, ran, onward⟩ := Option.bind_eq_some_iff.mp stepped
    cases outcome with
    | ok step =>
      cases onward
      exact fits_of_unprotected machine.unprotected_step ran
    | error raised =>
      dsimp only at onward
      rw [interpret_bind] at onward
      obtain ⟨_, -, final⟩ := Option.bind_eq_some_iff.mp onward
      cases final
  | call callee arguments site =>
    rw [stepOf, interpret_bind] at stepped
    obtain ⟨⟨outcome, between⟩, -, onward⟩ := Option.bind_eq_some_iff.mp stepped
    rcases outcome with raised | ⟨function, arguments⟩
    · cases onward
    dsimp only at onward
    rw [interpret_bind] at onward
    obtain ⟨⟨object?, between⟩, -, onward⟩ := Option.bind_eq_some_iff.mp onward
    rcases object? with _ | closure | builtin | native
    · cases onward
    · dsimp only at onward
      rw [interpret_bind] at onward
      obtain ⟨⟨started, between⟩, ran, onward⟩ := Option.bind_eq_some_iff.mp onward
      cases started with
      | ok machine =>
        cases onward
        exact fits_of_unprotected (Machine.unprotected_start closure arguments site) ran
      | error raised => cases onward
    all_goals
      dsimp only at onward
      rw [interpret_bind] at onward
      obtain ⟨_, -, final⟩ := Option.bind_eq_some_iff.mp onward
      cases final
  | exit status => cases stepped

/-! ### Native functions -/

/-- Room inside a native function that is called with some arguments, for an account of its failure. -/
structure Site.Accommodates (site : Site) (count : Nat) : Prop where
  nesting : site.nesting + 1 < Site.maxNesting
  height : site.height + count + 23 ≤ Site.maxHeight

/-- A native function accepts its arguments, calls a function, and gives back what the call comes to. -/
inductive Native.Relays (native : Native) (code : HostCode) (budget : Nat) (given : Arguments) (inside : Site) (scene : Scene) :
    FunctionRef → List Raw → Scene → Prop where
  | call {between there : Scene} {function : Handle} {callee : FunctionRef} {values : List Value} {raws : List Raw}
    (accepted : exec (perform code budget) (native.receive given) inside scene = some (.ok (), between))
    (reached : scene.Reached → there.Reached) (resolved : there.resolve function = .ok (.function callee))
    (staged : List.Forall₂ there.Stages values raws)
    (relayed : ∀ result after,
      exec (perform code budget) (Function.call function values) inside there = some (.ok result, after) →
        ∃ final, exec (perform code budget) (native.body.run code given) inside between = some (.ok result, final)) :
    Relays native code budget given inside scene callee raws there

/-- Native functions that each give back what a call comes to, one inside the other, down to something that raises a
message. Between them there may be scripts. -/
inductive Descends (code : HostCode) : Nat → Task → Scene → List String → String → Prop where
  | raised {budget : Nat} {task : Task} {scene after : Scene} {raised : Raw} {message : String}
    (ran : perform code budget task scene = some (.error raised, after)) (same : raisedMessage raised = message) :
    Descends code budget task scene [] message
  | step {budget : Nat} {task next : Task} {scene after : Scene} {names : List String} {message : String}
    (stepped : interpret (perform code budget) (stepOf code task) scene = some (.again next, after))
    (onward : Descends code budget next after names message) : Descends code (budget + 1) task scene names message
  /-- A script makes a call. What waits for the end of its variable does not raise something else then. -/
  | script {budget : Nat} {machine : Machine} {inner : Task} {scene there : Scene} {names : List String} {message : String}
    (reaches : Reaches (perform code budget) (ofEval machine.step) scene inner there)
    (quiet : ∀ raised after, perform code budget inner there = some (.error raised, after) →
      ∃ final, evaluation (perform code budget) (machine.unwind raised) after = some (.ok raised, final))
    (onward : Descends code budget inner there names message) :
    Descends code (budget + 1) (.execute machine) scene names message
  | native {budget : Nat} {native : Native} {place callee : FunctionRef} {given raws : List Raw} {site : Site}
    {scene there : Scene} {names : List String} {message : String}
    (found : scene.interpreter.heap.functions[place.index]? = some (.native native))
    (room : Site.Accommodates site given.length)
    (relays : native.Relays code budget given (site.enter given.length) scene callee raws there)
    (onward : Descends code budget (.call (.function callee) raws (described (site.enter given.length)).nested) there
      names message) : Descends code (budget + 1) (.call (.function place) given site) scene (native.name :: names) message

/-- A native function that calls its first argument with the others is of this kind. -/
theorem Descends.apply {name : String} {place callee : FunctionRef} {given raws : List Raw} {site : Site} {function : Handle}
    {values : List Value} {names : List String} {message : String}
    (found : scene.interpreter.heap.functions[place.index]? = some (.native ⟨name, none, false, .apply⟩))
    (room : Site.Accommodates site given.length)
    (collected : exec (perform code budget) (Arguments.collect given) (site.enter given.length) scene =
      some (.ok (.function function :: values), there))
    (resolved : there.resolve function = .ok (.function callee)) (staged : List.Forall₂ there.Stages values raws)
    (onward : Descends code budget (.call (.function callee) raws (described (site.enter given.length)).nested) there
      names message) : Descends code (budget + 1) (.call (.function place) given site) scene (name :: names) message := by
  have accepted : exec (perform code budget) (Native.receive ⟨name, none, false, .apply⟩ given) (site.enter given.length)
      scene = some (.ok (), scene) := rfl
  have here : scene.Reached → there.Reached := Scene.Reached.conserved.interpret Scene.Reached.conserved.perform collected
  refine .native found room (.call accepted here resolved staged fun result after called => ⟨after, ?_⟩) onward
  exact (exec_bind_ok collected _).trans called

theorem perform_failed {native : Native} {place : FunctionRef} {given : List Raw} {site : Site} {text : String}
    (found : scene.interpreter.heap.functions[place.index]? = some (.native native))
    (handled : site.handler = some (.function Builtin.describe.ref)) (room : Site.Accommodates site given.length)
    (reached : scene.Reached)
    (failed : exec (perform code (budget + 1)) (native.call code given) (site.enter given.length) scene =
      some (.error text, there)) :
    ∃ number after, perform code (budget + 2) (.call (.function place) given site) scene =
      some (.error (.failure (native.name ++ ": " ++ text) number), after) := by
  have still : there.Reached := Scene.Reached.conserved.interpret Scene.Reached.conserved.perform failed reached
  have height : (site.enter given.length).height + 22 ≤ Site.maxHeight := by
    have := room.height
    simp only [Site.enter]
    omega
  obtain ⟨number, after, raised, -⟩ : ∃ number after, evaluation (perform code (budget + 1))
      (native.fail text (site.enter given.length)) there = _ ∧ there.Spares after :=
    evaluation_fail native text still.describes handled room.nesting height still.valid
  refine ⟨number, after, ?_⟩
  rw [perform_function (Nat.lt_of_succ_lt room.nesting) found (.native native), Native.interpret_run_native, failed]
  exact raised

theorem Descends.raises {names : List String} {message : String} (descends : Descends code budget task scene names message)
    (reached : scene.Reached) (handled : task.handler = some (.function Builtin.describe.ref)) : ∃ raised after,
    perform code budget task scene = some (.error raised, after) ∧ raisedMessage raised = told names message := by
  -- From the bottom up: a script raises what its call raises, and a native function adds its name.
  induction descends with
  | raised ran same => exact ⟨_, _, ran, same⟩
  | @step budget task next scene between names message stepped onward ih =>
    have still : between.Reached := Scene.Reached.conserved.interpret Scene.Reached.conserved.perform stepped reached
    obtain ⟨raised, after, ran, text⟩ := ih still ((stepOf_handler stepped).trans handled)
    refine ⟨raised, after, ?_, text⟩
    rw [perform_succ, stepped]
    exact ran
  | @script budget machine inner scene there names message reaches quiet onward ih =>
    obtain ⟨same, raises⟩ := reaches.unprotected machine.unprotected_step
    obtain ⟨raised, after, ran, text⟩ := ih (reaches.reached reached) (same.trans handled)
    obtain ⟨final, unwound⟩ := quiet raised after ran
    refine ⟨raised, final, ?_, text⟩
    have stepped : interpret (perform code budget) (stepOf code (.execute machine)) scene =
        some (.finish (.error raised), final) := by
      have ended : interpret (perform code budget) (ofEval machine.step) scene = _ := raises raised after ran
      have last : interpret (perform code budget) (ofEval (machine.unwind raised)) after = _ := unwound
      rw [stepOf, interpret_bind, ended, Option.bind_some]
      dsimp only
      rw [interpret_bind, last]
      rfl
    rw [perform_succ, stepped]
  | @native budget native place callee given raws site scene there names message found room relays onward ih =>
    obtain ⟨accepted, here, resolved, staged, relayed⟩ := relays
    obtain ⟨raised, ended, ran, text⟩ := ih (here reached) rfl
    obtain ⟨final, gave⟩ := relayed _ _ (Function.call_raised resolved staged ran)
    -- Something ran inside, so there is budget left for the account of the failure.
    cases budget with
    | zero => cases ran
    | succ budget =>
      have failed : exec (perform code (budget + 1)) (native.call code given) (site.enter given.length) scene =
          some (.error (withoutTrace (told names message)), final) := by
        rw [Native.exec_call, accepted, Option.bind_some]
        dsimp only
        rw [gave, text]
        rfl
      obtain ⟨number, after, whole⟩ := perform_failed found handled room reached failed
      exact ⟨_, after, whole, rfl⟩

/-! ### What scripts raise -/

theorem upToZero_of_absent {bytes : ByteArray} (absent : ∀ byte ∈ bytes.data, byte ≠ 0) : upToZero bytes = bytes := by
  have all : bytes.data.toList.takeWhile (· != 0) = bytes.data.toList :=
    List.takeWhile_eq_self_iff.mpr fun byte listed => bne_iff_ne.mpr (absent byte (Array.mem_def.mpr listed))
  rw [upToZero]
  exact congrArg ByteArray.mk (Array.toList_inj.mp ((Array.toList_takeWhile ..).trans all))

/-- No script has given strings a text of their own. -/
def Scene.KeepsStrings (scene : Scene) : Prop :=
  (scene.interpreter.heap.table (Heap.libraryRef .stringMeta)).get (.ofString "__tostring") = .nil

theorem perform_describe_string {site : Site} {bytes : ByteArray} (describes : scene.Describes) (plain : scene.KeepsStrings)
    (nesting : site.nesting < Site.maxNesting) (height : site.height + 22 ≤ Site.maxHeight) :
    ∃ after, perform code (budget + 1) (.call (.function Builtin.describe.ref) [.string bytes] site) scene =
      some (.ok [.string (upToZero bytes)], after) := by
  have room : site.height + 1 + [Raw.string bytes].length + Builtin.slots ≤ Site.maxHeight := height
  let looked := (scene.withHeap (HeapRequest.get (Heap.libraryRef .stringMeta) (.ofString "__tostring")).answer).2
  have plain : evaluation (perform code budget) (Site.metavalue (.string bytes) "__tostring") scene =
      some (.ok .nil, looked) := by
    rw [Site.metavalue, evaluation_bind, evaluation_ask]
    change some (Except.ok ((scene.interpreter.heap.table _).get _), looked) = _
    rw [plain]
  refine ⟨looked, ?_⟩
  rw [perform_function nesting describes (.builtin .describe)]
  change evaluation (perform code budget) (Builtin.describe.run _ site) scene = _
  rw [Builtin.run, evaluation_bind, Site.evaluation_claim room]
  change evaluation (perform code budget) (Site.text _ site (.string bytes) >>= _) scene = _
  rw [evaluation_bind, Site.text, evaluation_bind, plain]
  rfl

/-- A script raises a string without a place with `error`. Only what is in front of a zero byte is told. -/
theorem perform_error {site : Site} {place : FunctionRef} {bytes : ByteArray} {level : Int64}
    (found : scene.interpreter.heap.functions[place.index]? = some (.builtin .error))
    (describes : scene.Describes) (plain : scene.KeepsStrings) (handled : site.handler = some (.function Builtin.describe.ref))
    (unplaced : level.toInt ≤ 0) (room : Site.Accommodates site 2) :
    ∃ after, perform code (budget + 2) (.call (.function place) [.string bytes, .integer level] site) scene =
      some (.error (.string (upToZero bytes)), after) := by
  have height : site.height + 25 ≤ Site.maxHeight := room.height
  have claimed : site.height + 1 + [Raw.string bytes, Raw.integer level].length + Builtin.slots ≤ Site.maxHeight :=
    Nat.le_trans (Nat.add_le_add_left (by decide : 23 ≤ 25) site.height) height
  let call : LibraryCall := ⟨.error, [.string bytes, .integer level], site⟩
  obtain ⟨after, described⟩ : ∃ after, perform code (budget + 1)
      (.call (.function Builtin.describe.ref) [.string bytes] call.inside.nested) scene =
        some (.ok [.string (upToZero bytes)], after) :=
    perform_describe_string describes plain room.nesting height
  refine ⟨after, ?_⟩
  have read : evaluation (perform code (budget + 1)) (call.integerOr 2 1) scene = some (.ok level.toInt, scene) := rfl
  have unlabelled : "".toUTF8 ++ bytes = bytes := ByteArray.empty_append
  rw [perform_function (Nat.lt_of_succ_lt room.nesting) found (.builtin .error)]
  change evaluation (perform code (budget + 1)) (Builtin.error.run _ site) scene = _
  rw [Builtin.run, evaluation_bind, Site.evaluation_claim claimed]
  change evaluation (perform code (budget + 1)) call.error scene = _
  rw [LibraryCall.error, evaluation_bind, read]
  change evaluation (perform code (budget + 1)) (call.raise (.string bytes) level.toInt) scene = _
  have inside : call.inside.handler = some (.function Builtin.describe.ref) := handled
  rw [LibraryCall.raise, if_neg (Int.not_lt.mpr unplaced), unlabelled, Site.raise, inside]
  change evaluation (perform code (budget + 1)) (call.inside.callOne _ [.string bytes] >>= _) scene = _
  rw [evaluation_bind, evaluation_callOne, described]
  rfl

/-! ### Calls inside one another -/

namespace Scene

/-- A new context in which some functions have been made and pinned. -/
def stocked (made : List (BridgeRequest FunctionRef)) : Scene :=
  made.foldl (fun scene request => (scene.answer request).2.register (.function (scene.answer request).1))
    ⟨⟨0⟩, .initial, .initial .blank, []⟩

def stockPlace (index : Nat) : FunctionRef := ⟨Builtin.all.length + index⟩

def stockHandle (index : Nat) : Handle := ⟨⟨⟨0⟩, index⟩, (stockPlace index).index⟩

def stockValue (index : Nat) : Value := .function (stockHandle index)

theorem reached_stocked (made : List (BridgeRequest FunctionRef)) : (stocked made).Reached := by
  have start : Scene.Reached ⟨⟨0⟩, .initial, .initial .blank, []⟩ := .opened _ _ _
  unfold stocked
  generalize (⟨⟨0⟩, .initial, .initial .blank, []⟩ : Scene) = scene at start ⊢
  induction made generalizing scene with
  | nil => exact start
  | cons request rest ih => exact ih _ ((start.answer request).answer (.register _))

end Scene

/-- A native function that calls its first argument with the others. -/
def applying (name : String) : BridgeRequest FunctionRef := .newNative ⟨name, none, false, .apply⟩

def refusing (name message : String) : BridgeRequest FunctionRef := .newNative ⟨name, none, false, .refuse message⟩

/-- A function of a script, with as many registers as parameters. -/
def running (name : String) (parameters : Nat) (code : Array Instruction) : BridgeRequest FunctionRef :=
  .heap (.newClosure ⟨⟨name, parameters, false, parameters, code, #[], #[], #[], []⟩, #[]⟩)

/-- Two native functions and a script to stand between them, and a third native function that reports a failure. -/
def relaying : Scene :=
  .stocked [applying "outer", running "script" 2 #[.call 0 (some 1) none, .leave 0 none], applying "inner",
    refusing "last" "no"]

theorem relaying_descends : Descends .none 6 (.call (.function (Scene.stockPlace 0))
    [.function (Scene.stockPlace 1), .function (Scene.stockPlace 2), .function (Scene.stockPlace 3)]
    (described .host).nested) relaying ["outer", "inner"] ("last" ++ ": " ++ "no") := by
  refine .apply rfl ⟨by decide, by decide⟩ rfl rfl (.cons ⟨⟨_, rfl, rfl⟩, rfl⟩ (.cons ⟨⟨_, rfl, rfl⟩, rfl⟩ .nil)) ?_
  refine .step rfl ?_
  refine .script (.request .run) (fun raised after _ => ⟨after, rfl⟩) ?_
  refine .apply rfl ⟨by decide, by decide⟩ rfl rfl .nil ?_
  exact .raised rfl rfl

/-- The text that the host gets for a failure has the names of all native functions on the way in front, the outermost
one first, and nothing else. -/
theorem error_prefixes (code : HostCode) (budget : Nat) (scene : Scene) (reached : scene.Reached) :
    (∀ (site : Site) (function : Handle) (place : FunctionRef) (arguments : List Value) (raws : List Raw)
        (names : List String) (message : String), scene.resolve function = .ok (.function place) →
      List.Forall₂ scene.Stages arguments raws →
      Descends code budget (.call (.function place) raws (described site).nested) scene names message →
      (∀ name ∈ names, IsUntraced (name ++ ":")) → IsUntraced message → IsUntraced (prefixed names message) ∧
        ∃ after, exec (perform code budget) (Function.call function arguments) site scene =
          some (.ok (.failed (prefixed names message)), after)) ∧
    (∀ (site : Site) (native : Native) (place : FunctionRef) (given : List Raw) (text : String) (failed : Scene),
      site.handler = some (.function Builtin.describe.ref) → Site.Accommodates site given.length →
      scene.interpreter.heap.functions[place.index]? = some (.native native) →
      exec (perform code (budget + 1)) (native.call code given) (site.enter given.length) scene = some (.error text, failed) →
      Descends code (budget + 2) (.call (.function place) given site) scene [] (native.name ++ ": " ++ text)) ∧
    ∀ (site : Site) (place : FunctionRef) (message : String) (level : Int64),
      site.handler = some (.function Builtin.describe.ref) → Site.Accommodates site 2 →
      scene.interpreter.heap.functions[place.index]? = some (.builtin .error) → scene.KeepsStrings →
      level.toInt ≤ 0 → (∀ byte ∈ message.toUTF8.data, byte ≠ 0) →
      Descends code (budget + 2) (.call (.function place) [.ofString message, .integer level] site) scene [] message := by
  refine ⟨fun site function place arguments raws names message resolved staged descends named untraced => ?_,
    fun site native place given text failed handled room found ran => ?_,
    fun site place message level handled room found plain unplaced nonzero => ?_⟩
  · have clean : IsUntraced (prefixed names message) := isUntraced_prefixed.mpr ⟨named, untraced⟩
    obtain ⟨raised, after, ran, text⟩ := descends.raises reached rfl
    refine ⟨clean, after, ?_⟩
    rw [Function.call_raised resolved staged ran, text, told_of_untraced clean, clean.whole]
  · obtain ⟨number, after, raised⟩ := perform_failed found handled room reached ran
    exact .raised raised rfl
  · obtain ⟨after, raised⟩ := perform_error found reached.describes plain handled unplaced room
    have whole : raisedMessage (.string (upToZero message.toUTF8)) = message := by
      rw [upToZero_of_absent nonzero]
      exact Utf8.decode_toUTF8 message
    exact .raised raised whole

/-- Two native functions with a script between them, and what can be at the bottom. -/
theorem error_prefixes_relaying :
    (∃ after, exec (perform .none 6)
      (Function.call (Scene.stockHandle 0) [Scene.stockValue 1, Scene.stockValue 2, Scene.stockValue 3]) .host relaying =
        some (.ok (.failed "outer: inner: last: no"), after)) ∧
    Descends .none 8 (.call (.function (Scene.stockPlace 3)) [] .host) relaying [] ("last" ++ ": " ++ "no") ∧
    Descends .none 8 (.call (.function Builtin.error.ref) [.ofString "no", .integer 0] .host) relaying [] "no" := by
  obtain ⟨chain, failure, error⟩ := error_prefixes .none 6 relaying (Scene.reached_stocked _)
  refine ⟨?_, failure .host ⟨"last", none, false, .refuse "no"⟩ _ [] "no" relaying rfl ⟨by decide, by decide⟩ rfl rfl,
    error .host _ "no" 0 rfl ⟨by decide, by decide⟩ rfl rfl (by decide) (by decide +kernel)⟩
  have text : prefixed ["outer", "inner"] ("last" ++ ": " ++ "no") = "outer: inner: last: no" := by decide +kernel
  have staged : List.Forall₂ relaying.Stages [Scene.stockValue 1, Scene.stockValue 2, Scene.stockValue 3]
      [.function (Scene.stockPlace 1), .function (Scene.stockPlace 2), .function (Scene.stockPlace 3)] :=
    .cons ⟨⟨_, rfl, rfl⟩, rfl⟩ (.cons ⟨⟨_, rfl, rfl⟩, rfl⟩ (.cons ⟨⟨_, rfl, rfl⟩, rfl⟩ .nil))
  obtain ⟨-, after, ran⟩ := chain .host (Scene.stockHandle 0) (Scene.stockPlace 0) _ _ _ _ rfl staged relaying_descends
    (by decide +kernel) (by decide +kernel)
  rw [text] at ran
  exact ⟨after, ran⟩

def failure? : Option (Except Error CallResult × Scene) → Option String
  | some (.ok (.failed message), _) => some message
  | _ => none

/-- Where the text is another one: the colon behind a name completes it to the heading, a script raises a string with a
zero byte, or strings have a text of their own, calls are nested too deep, the stack is full, or a value that waits for
the end of its variable raises something of its own. -/
theorem error_prefixes_lost :
    let call := fun (site : Site) (scene : Scene) (arguments : List Value) =>
      failure? (exec (perform .none 8) (Function.call (Scene.stockHandle 0) arguments) site scene)
    let heading := "a\nstack traceback"
    let raising := (Scene.stocked [applying "a", .newNative ⟨"z", none, false, .reply [.string "z"]⟩]).register
      (.function Builtin.error.ref)
    let raise : Value := .function ⟨⟨⟨0⟩, 2⟩, Builtin.error.ref.index⟩
    let taking := fun (scene : Scene) (name : String) (taker : Nat) =>
      (scene.answer (.heap (.set (Heap.libraryRef .stringMeta) (.ofString name) (.function (Scene.stockPlace taker))))).2
    let pair := Scene.stocked [applying "a", refusing "b" "m"]
    let closing := Scene.stocked [applying "a", running "script" 2 #[.closeLater 1, .call 0 (some 0) none, .leave 0 none],
      refusing "b" "m", refusing "c" "late"]
    (IsUntraced heading ∧ IsUntraced "b" ∧ IsUntraced "m" ∧
      call .host (.stocked [applying heading, refusing "b" "m"]) [Scene.stockValue 1] = some "a" ∧
      prefixed [heading, "b"] "m" ≠ "a") ∧
    (call .host raising [raise, .string "x\x00y", .number (.ofInt 0)] = some "a: x" ∧
      prefixed ["a"] "x\x00y" ≠ "a: x") ∧
    (call .host (taking raising "__tostring" 1) [raise, .string "x", .number (.ofInt 0)] = some "a: z" ∧
      prefixed ["a"] "x" ≠ "a: z") ∧
    (call { Site.host with nesting := 197 } pair [Scene.stockValue 1] = some "a: C stack overflow" ∧
      call { Site.host with height := Site.maxHeight } pair [Scene.stockValue 1] = some "stack overflow" ∧
      prefixed ["a", "b"] "m" ∉ ["a: C stack overflow", "stack overflow"]) ∧
    call .host (taking closing "__close" 3) [Scene.stockValue 1, Scene.stockValue 2, .string ""] = some "a: c: late" ∧
      prefixed ["a", "b"] "m" ≠ "a: c: late" := by
  decide +kernel

end TileScript.Bridge
