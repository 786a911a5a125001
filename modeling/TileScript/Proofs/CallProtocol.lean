import TileScript.Proofs.HandedValues
import TileScript.Proofs.ReachedScenes
import TileScript.Proofs.StackDiscipline

/-! What a call of a native function comes to: values go over the stack to a task, from there to the body, and
back the same way. -/

namespace TileScript.Bridge
open Script Attempt

variable {runner : Runner} {site : Site} {scene : Scene} {code : HostCode} {budget : Nat}

/-! ### Between the stack and a task -/

namespace Stack

/-- What is on the stack after a call, and whether it went well. -/
def called : Outcome × Scene → Except Error Bool × Scene
  | (.ok results, returned) => (.ok true, returned.setStack (results.reverse ++ returned.stack))
  | (.error raised, returned) =>
    (.ok false, returned.setStack (.ofString (withoutTrace (raisedMessage raised)) :: returned.stack))

theorem exec_protectedCall {function : FunctionRef} {values rest : List Raw}
    (staged : scene.stack = values.reverse ++ .function function :: rest) :
    exec runner (protectedCall values.length) site scene =
      (runner (.call (.function function) values (described site).nested) (scene.setStack rest)).map called := by
  have enough : ¬ scene.stack.length < values.length + 1 := by simp [staged]
  have below : scene.stack[values.length]? = some (.function function) := by simp [staged]
  have count : values.length = values.reverse.length := List.length_reverse.symm
  have above : (scene.stack.take values.length).reverse = values := by
    rw [staged, count, List.take_left, List.reverse_reverse]
  have under : scene.stack.drop (values.length + 1) = rest := by
    rw [staged, ← List.drop_drop, count, List.drop_left]
    rfl
  rw [protectedCall, exec_bind, exec_ask, Scene.answer_stack]
  change exec runner (if scene.stack.length < values.length + 1 then _ else _) site scene = _
  rw [if_neg enough, exec_bind, exec_ask, below, above, under]
  change exec runner (call (.function function) values >>= _) site (scene.setStack rest) = _
  rw [exec_bind, exec_call, Option.bind_map, Option.map_eq_bind]
  congr 1
  funext ⟨outcome, returned⟩
  cases outcome <;> rfl

end Stack

namespace Function

open Stack

theorem exec_pushArguments (pushed : Nat) {arguments : List Value} {raws : List Raw}
    (given : List.Forall₂ (scene.rawOf · = .ok ·) arguments raws) :
    exec runner (pushArguments pushed arguments) site scene =
      some (.ok (), scene.setStack (raws.reverse ++ scene.stack)) := by
  induction arguments generalizing pushed raws scene with
  | nil =>
    cases given
    rfl
  | cons argument rest ih =>
    cases given with
    | @cons _ raw _ raws first others =>
      have still : List.Forall₂ ((scene.setStack (raw :: scene.stack)).rawOf · = .ok ·) rest raws := others
      rw [pushArguments, exec_bind, exec_observe, exec_push, first]
      refine Eq.trans (ih (pushed + 1) still) ?_
      simp

/-- A call of a function at hand with values at hand is a task, whose results or whose message are left on
the stack. -/
theorem exec_invoke {function : Handle} {callee : FunctionRef} {arguments : List Value} {raws : List Raw}
    (known : scene.resolve function = .ok (.function callee)) (given : List.Forall₂ (scene.rawOf · = .ok ·) arguments raws) :
    exec runner (invoke function arguments) site scene =
      (runner (.call (.function callee) raws (described site).nested) scene).map called := by
  have raw : scene.rawOf (.function function) = .ok (.function callee) := known
  have ready : List.Forall₂ ((scene.setStack (.function callee :: scene.stack)).rawOf · = .ok ·) arguments raws := given
  rw [invoke, exec_bind, exec_push, raw]
  refine (exec_bind_ok (exec_pushArguments 0 ready) _).trans ?_
  rw [given.length_eq]
  exact exec_protectedCall rfl

/-- The results are read from the deepest one up; those that were read before are still there. -/
theorem gives_readResults (valid : scene.interpreter.registry.Valid) {results below : List Raw}
    (known : ∀ raw ∈ results, ∃ kind, kindOf raw = .ok kind) (staged : scene.stack = results.reverse ++ below) :
    (readResults results.length).Gives runner site scene fun values after => List.Forall₂ after.Shows results values := by
  induction results generalizing scene below with
  | nil => exact gives_pure valid .nil
  | cons raw rest ih =>
    obtain ⟨kind, shape⟩ := known raw List.mem_cons_self
    have there : scene.stack[rest.length]? = some raw := by simp [staged]
    have read : (readAt (-(rest.length + 1 : Nat))).Gives runner site scene fun value after => after.Shows raw value := by
      obtain ⟨value, after, ran, spares, shown⟩ : (Act.ofRaw raw).Gives runner site scene _ := Act.gives_ofRaw valid shape
      exact ⟨value, after, (exec_readAt there).trans ran, spares, shown⟩
    refine read.bind fun value between spares shown => ?_
    have still : between.stack = rest.reverse ++ raw :: below := by
      rw [spares.stack, staged]
      simp
    refine (ih spares.registry (fun other listed => known other (List.mem_cons_of_mem _ listed)) still).bind
      fun values after later others => ?_
    exact gives_pure later.registry (.cons (later.grows.shows shown) others)

/-- Several results are read first and removed then. -/
theorem gives_takeMany (valid : scene.interpreter.registry.Valid) {results rest : List Raw}
    (known : ∀ raw ∈ results, ∃ kind, kindOf raw = .ok kind) (staged : scene.stack = results.reverse ++ rest)
    (several : 2 ≤ results.length) : ∃ values after,
      exec runner (do
        let values ← observe (readResults results.length)
        remove results.length
        return CallResult.multiple (← settle values)) site scene = some (.ok (.ofValues values), after) ∧
      (scene.setStack rest).Spares after ∧ List.Forall₂ after.Shows results values := by
  obtain ⟨values, read, ran, spares, shown⟩ : (readResults results.length).Gives runner site scene _ :=
    gives_readResults valid known staged
  have removed : exec runner (remove results.length) site read = some (.ok (), read.setStack rest) := by
    rw [← List.length_reverse]
    exact exec_remove (by rw [spares.stack, staged])
  refine ⟨values, read.setStack rest, ?_, spares.setStack rest,
    shown.imp fun _ _ => (Scene.Grows.setStack read rest).shows⟩
  rw [exec_bind, exec_observe, ran]
  refine (exec_bind_ok removed _).trans ?_
  rw [shown.length_eq] at several
  rcases values with _ | ⟨_, _ | ⟨_, _⟩⟩
  · cases several
  · cases Nat.le_of_succ_le_succ several
  · rfl

theorem gives_takeResults (valid : scene.interpreter.registry.Valid) {results rest : List Raw}
    (known : ∀ raw ∈ results, ∃ kind, kindOf raw = .ok kind) (staged : scene.stack = results.reverse ++ rest) :
    ∃ values after, exec runner (takeResults rest.length) site scene = some (.ok (.ofValues values), after) ∧
      (scene.setStack rest).Spares after ∧ List.Forall₂ after.Shows results values := by
  have grown : scene.stack.length - rest.length = results.length := by simp [staged]
  have sized : exec runner size site scene = some (.ok scene.stack.length, scene) := rfl
  rw [takeResults, exec_bind, sized, Option.bind_some]
  dsimp only
  rw [grown]
  rcases results with _ | ⟨raw, _ | ⟨second, others⟩⟩
  · refine ⟨[], scene, rfl, ?_, .nil⟩
    rw [← show scene.stack = rest from staged]
    exact .refl valid
  · obtain ⟨kind, shape⟩ := known raw List.mem_cons_self
    have still : (scene.setStack rest).interpreter.registry.Valid := valid
    obtain ⟨value, after, ran, spares, shown⟩ : (Act.ofRaw raw).Gives runner site (scene.setStack rest) _ :=
      Act.gives_ofRaw still shape
    exact ⟨[value], after, exec_bind_ok ((exec_pop staged).trans ran) _, spares, .cons shown .nil⟩
  · exact gives_takeMany valid known staged (Nat.le_add_left 2 others.length)

theorem exec_takeMessage {message : String} {rest : List Raw} (staged : scene.stack = .ofString message :: rest) :
    exec runner takeMessage site scene = some (.ok (.failed message), scene.setStack rest) := by
  rw [takeMessage, exec_bind, exec_pop staged]
  change some (Except.ok (CallResult.failed (Utf8.decode message.toUTF8)), scene.setStack rest) = _
  rw [Utf8.decode_toUTF8]

end Function

/-! ### Between a task and the body -/

namespace Site

/-- Room for a native function with some arguments, and for an account of its failure. -/
structure HasRoom (site : Site) (count : Nat) : Prop where
  nesting : site.nesting + 2 < Site.maxNesting
  height : site.height + count + 23 ≤ Site.maxHeight

theorem evaluation_prepare (room : site.nesting < Site.maxNesting) (function : FunctionRef) (arguments : List Raw) :
    evaluation runner (site.prepare (.function function) arguments) scene = some (.ok (function, arguments), scene) := by
  have few : site.nesting ≠ Site.maxNesting := Nat.ne_of_lt room
  have fewer : ¬ Site.maxFaultNesting ≤ site.nesting := Nat.not_le.mpr (Nat.lt_trans room (by decide))
  rw [Site.prepare, Site.checkNesting, if_neg few, if_neg fewer, evaluation_bind]
  rfl

theorem evaluation_claim {height : Nat} (room : height ≤ Site.maxHeight) :
    evaluation runner (site.claim height) scene = some (.ok (), scene) := by
  rw [Site.claim]
  split
  · rw [if_neg (Nat.not_le.mpr (Nat.lt_of_le_of_lt room (by decide)))]
    rfl
  · rw [if_neg (Nat.not_lt.mpr room)]
    rfl

end Site

/-- What a function comes to that is not written in a script. -/
inductive Runs (code : HostCode) (arguments : List Raw) (site : Site) :
    FunctionObject → Program BridgeRequest Outcome → Prop where
  | builtin (builtin : Builtin) : Runs code arguments site (.builtin builtin) (ofEval (builtin.run arguments site))
  | native (native : Native) : Runs code arguments site (.native native) (native.run code arguments site)

/-- A call of such a function takes one step, unless it is nested too deep. -/
theorem perform_function {place : FunctionRef} {object : FunctionObject} {arguments : List Raw}
    {program : Program BridgeRequest Outcome} (room : site.nesting < Site.maxNesting)
    (found : scene.interpreter.heap.functions[place.index]? = some object) (runs : Runs code arguments site object program) :
    perform code (budget + 1) (.call (.function place) arguments site) scene =
      interpret (perform code budget) program scene := by
  have prepared : interpret (perform code budget) (ofEval (site.prepare (.function place) arguments)) scene = _ :=
    Site.evaluation_prepare room place arguments
  have stepped : interpret (perform code budget) (stepOf code (.call (.function place) arguments site)) scene =
      interpret (perform code budget) (program >>= fun outcome => pure (.finish outcome)) scene := by
    rw [stepOf, interpret_bind, prepared]
    simp only [Option.bind_some]
    rw [interpret_bind]
    simp only [interpret, Scene.answer, Option.bind_some, found]
    cases runs with
    | builtin builtin => rfl
    | native native => rfl
  rw [perform_succ, stepped, interpret_bind]
  cases interpret (perform code budget) program scene <;> rfl

theorem perform_describe {message : String} {number : Nat} (describes : scene.Describes)
    (nesting : site.nesting < Site.maxNesting) (height : site.height + 22 ≤ Site.maxHeight) :
    perform code (budget + 1) (.call (.function Builtin.describe.ref) [.failure message number] site) scene =
      some (.ok [.failure message number], scene) := by
  have room : site.height + 1 + [Raw.failure message number].length + Builtin.slots ≤ Site.maxHeight := height
  rw [perform_function nesting describes (.builtin .describe)]
  change evaluation (perform code budget) (Builtin.describe.run _ site) scene = _
  rw [Builtin.run, evaluation_bind, Site.evaluation_claim room]
  rfl

theorem evaluation_callOne (callee : Raw) (arguments : List Raw) :
    evaluation runner (site.callOne callee arguments) scene =
      (runner (.call callee arguments site.nested) scene).map fun (outcome, after) =>
        (outcome.map fun values => values.headD .nil, after) := by
  have called : evaluation runner (site.call callee arguments) scene = runner (.call callee arguments site.nested) scene := by
    change interpret runner (.run (.call callee arguments site.nested) .pure) scene = _
    rw [interpret_run]
    cases runner (.call callee arguments site.nested) scene <;> rfl
  rw [Site.callOne, evaluation_bind, called]
  cases runner (.call callee arguments site.nested) scene with
  | none => rfl
  | some ran =>
    obtain ⟨outcome, after⟩ := ran
    cases outcome <;> rfl

/-- A failure is raised with the name of the function in front. -/
theorem evaluation_fail (native : Native) (message : String) (describes : scene.Describes)
    (handled : site.handler = some (.function Builtin.describe.ref)) (nesting : site.nesting + 1 < Site.maxNesting)
    (height : site.height + 22 ≤ Site.maxHeight) (valid : scene.interpreter.registry.Valid) :
    ∃ number after, evaluation (perform code (budget + 1)) (native.fail message site) scene =
      some (.error (.failure (native.name ++ ": " ++ message) number), after) ∧ scene.Spares after := by
  let number := (scene.withHeap (HeapRequest.newNumber).answer).1
  let numbered := (scene.withHeap (HeapRequest.newNumber).answer).2
  have spares : scene.Spares numbered := ⟨⟨_, rfl⟩, rfl, rfl, rfl, ⟨rfl, fun _ _ known => known⟩, valid⟩
  have still : numbered.Describes := describes
  refine ⟨number, numbered, ?_, spares⟩
  rw [Native.fail, evaluation_bind, evaluation_ask]
  change evaluation (perform code (budget + 1)) (site.raise (.failure (native.name ++ ": " ++ message) number)) numbered = _
  -- The handler describes what scripts raise. A failure is passed on as it is.
  rw [Site.raise, handled]
  change evaluation (perform code (budget + 1)) (site.callOne _ [.failure (native.name ++ ": " ++ message) number] >>= _) numbered = _
  have nested : site.nested.nesting < Site.maxNesting := nesting
  rw [evaluation_bind, evaluation_callOne, perform_describe still nested height]
  rfl

/-! ### Texts -/

/-- A text without an account of calls. -/
def IsUntraced (text : String) : Prop := ¬ traceHeading.toList <:+: text.toList

theorem before_of_absent {mark text : List Char} (absent : ¬ mark <:+: text) : before mark text = text := by
  induction text with
  | nil => rfl
  | cons c rest ih =>
    have elsewhere : mark.isPrefixOf (c :: rest) ≠ true := fun here =>
      absent (List.isPrefixOf_iff_prefix.mp here).isInfix
    rw [before, if_neg elsewhere, ih fun later => absent (later.trans (List.suffix_cons c rest).isInfix)]

theorem IsUntraced.whole {text : String} (untraced : IsUntraced text) : withoutTrace text = text := by
  rw [withoutTrace, before_of_absent untraced, String.ofList_toList]

theorem traced_around (front inner tail : String) : ¬ IsUntraced (front ++ (inner ++ traceHeading ++ tail)) := by
  intro untraced
  rw [IsUntraced, String.toList_append, String.toList_append, String.toList_append, ← List.append_assoc,
    ← List.append_assoc] at untraced
  exact untraced (List.infix_append _ _ _)

/-- The errors that a native function raises with less than their whole text have an account of calls. -/
theorem IsUntraced.raised {front : String} {error : Error} (untraced : IsUntraced (front ++ error.text)) :
    error.raised = error.text := by
  cases error with
  | script message =>
    exact absurd untraced (traced_around front ("runtime error: " ++ message) "\n\t[C]: in ?")
  | load _ | runtime _ | config _ | io _ | unsupported _ | type _ _ | stackIndex _ _ | argumentIndex _ _ | stale
  | foreign | foreignPin => rfl

/-! ### Whole calls -/

namespace Function

variable {function : Handle} {callee : FunctionRef} {arguments : List Value} {raws : List Raw}
  (known : scene.resolve function = .ok (.function callee))
include known

theorem exec_call (given : List.Forall₂ (scene.rawOf · = .ok ·) arguments raws) :
    exec runner (Function.call function arguments) site scene =
    (runner (.call (.function callee) raws (described site).nested) scene).bind fun (outcome, returned) =>
      match outcome with
      | .ok results =>
        exec runner (takeResults scene.stack.length) site (returned.setStack (results.reverse ++ returned.stack))
      | .error raised => exec runner takeMessage site
          (returned.setStack (.ofString (withoutTrace (raisedMessage raised)) :: returned.stack)) := by
  change exec runner (Stack.size >>= _) site scene = _
  rw [exec_bind]
  change exec runner (invoke function arguments >>= _) site scene = _
  rw [exec_bind, exec_invoke known given, Option.bind_map]
  congr 1
  funext ⟨outcome, returned⟩
  cases outcome <;> rfl

variable (staged : List.Forall₂ scene.Stages arguments raws)
include staged

theorem call_endless (endless : runner (.call (.function callee) raws (described site).nested) scene = none) :
    exec runner (Function.call function arguments) site scene = none := by
  rw [exec_call known (staged.imp fun _ _ => (·.staged)), endless]
  rfl

theorem call_raised {raised : Raw} {returned : Scene}
    (ran : runner (.call (.function callee) raws (described site).nested) scene = some (.error raised, returned)) :
    exec runner (Function.call function arguments) site scene =
      some (.ok (.failed (withoutTrace (raisedMessage raised))), returned) := by
  rw [exec_call known (staged.imp fun _ _ => (·.staged)), ran]
  exact exec_takeMessage rfl

theorem call_returned {results : List Raw} {returned : Scene}
    (ran : runner (.call (.function callee) raws (described site).nested) scene = some (.ok results, returned))
    (same : returned.stack = scene.stack) (valid : returned.interpreter.registry.Valid)
    (shapes : ∀ raw ∈ results, ∃ kind, kindOf raw = .ok kind) :
    ∃ values after, exec runner (Function.call function arguments) site scene = some (.ok (.ofValues values), after) ∧
      returned.Spares after ∧ List.Forall₂ after.Shows results values := by
  have still : (returned.setStack (results.reverse ++ returned.stack)).interpreter.registry.Valid := valid
  rw [exec_call known (staged.imp fun _ _ => (·.staged)), ran, ← same]
  exact gives_takeResults still shapes rfl

end Function

namespace Native

variable {native : Native} {arguments : Arguments}

/-- The check that the schema asks for. -/
def check (native : Native) (arguments : Arguments) : Check :=
  match native.schema with
  | some signature => Check.arguments arguments signature
  | none => pure ()

theorem exec_receive (silent : native.isTraced = false) :
    exec runner (native.receive arguments) site scene = exec runner (native.check arguments) site scene := by
  have last : (do
      if native.isTraced then
        let _ ← arguments.collect.mapError Error.raised
        ask (.note native.name arguments) : Attempt String Unit) = pure () := by
    rw [silent]
    rfl
  rw [receive, last, check]
  cases native.schema with
  | none => rfl
  | some signature =>
    change exec runner (Check.arguments arguments signature >>= fun _ => pure ()) site scene = _
    rw [exec_bind]
    cases exec runner (Check.arguments arguments signature) site scene with
    | none => rfl
    | some ran =>
      obtain ⟨_ | _, _⟩ := ran <;> rfl

theorem interpret_run_native : interpret runner (native.run code arguments site) scene =
    (exec runner (native.call code arguments) (site.enter arguments.length) scene).bind fun (result, after) =>
      match result with
      | .ok results => some (.ok results, after)
      | .error message => evaluation runner (native.fail message (site.enter arguments.length)) after := by
  rw [Native.run, interpret_bind]
  congr 1
  funext ⟨result, after⟩
  cases result <;> rfl

end Native

/-! ### The protocol -/

/-- What the caller gets for what a body comes to: no value, one, or many, in the same order, or a message. -/
inductive Scene.Returns (after : Scene) (name : String) : Except Error CallResult → CallResult → Prop where
  | none : after.Returns name (.ok .none) .none
  | empty : after.Returns name (.ok (.multiple [])) .none
  | single {value seen : Value} (received : after.Receives value seen) : after.Returns name (.ok (.single value)) (.single seen)
  | one {value seen : Value} (received : after.Receives value seen) :
    after.Returns name (.ok (.multiple [value])) (.single seen)
  | multiple {values seen : List Value} (many : 2 ≤ values.length) (received : List.Forall₂ after.Receives values seen) :
    after.Returns name (.ok (.multiple values)) (.multiple seen)
  | failed (message : String) : after.Returns name (.ok (.failed message)) (.failed (name ++ ": " ++ message))
  | error (error : Error) : after.Returns name (.error error) (.failed (name ++ ": " ++ error.text))

/-- That what a body comes to can be passed on whole: its handles are good, and its message has no account of
calls. -/
def Scene.Passes (scene : Scene) (name : String) : Except Error CallResult → Prop
  | .ok result =>
    match result.values with
    | .ok values => ∀ value ∈ values, scene.Holds value
    | .error message => IsUntraced (name ++ ": " ++ message)
  | .error error => IsUntraced (name ++ ": " ++ error.text)

def Scene.HasNative (scene : Scene) (function : Handle) (native : Native) : Prop :=
  ∃ place, scene.resolve function = .ok (.function place) ∧
    scene.interpreter.heap.functions[place.index]? = some (.native native)

theorem Scene.returns_values {after : Scene} {name : String} {result : CallResult} {values seen : List Value}
    (known : result.values = .ok values) (received : List.Forall₂ after.Receives values seen) :
    after.Returns name (.ok result) (.ofValues seen) := by
  cases result with
  | none =>
    cases known
    cases received
    exact .none
  | single value =>
    cases known
    cases received with
    | cons first rest =>
      cases rest
      exact .single first
  | multiple all =>
    cases known
    match received with
    | .nil => exact .empty
    | .cons first .nil => exact .one first
    | .cons first (.cons second rest) => exact .multiple (by simp) (.cons first (.cons second rest))
  | failed message => cases known

/-- The check and the body leave the stack as it was. -/
theorem Native.stack_body {native : Native} {arguments : Arguments} {between finished : Scene} {outcome : Except Error CallResult}
    {accepted : Except String Unit} (disciplined : code.IsDisciplined)
    (checked : exec (perform code budget) (native.check arguments) site scene = some (accepted, between))
    (ran : exec (perform code budget) (native.body.run code arguments) site between = some (outcome, finished))
    {place : Nat} (found : scene.interpreter.heap.functions[place]? = some (.native native)) :
    finished.stack = scene.stack := by
  let logic := Runtime.stacks ⟨code, budget⟩ disciplined
  have check : logic.Neutral (native.check arguments) := by
    rw [Native.check]
    cases native.schema with
    | some signature => exact StackLogic.neutral_checkArguments arguments signature
    | none => exact StackLogic.neutral_pure ()
  have body : logic.Neutral (native.body.run code arguments) :=
    Custody.none_entrusts disciplined _ logic.task scene place native trivial found arguments
  have early : between.stack = scene.stack := (check site scene _ _ trivial checked).2
  have late : finished.stack = between.stack := (body site between _ _ trivial ran).2
  exact late.trans early

section Calls

variable {function : Handle} {place : FunctionRef} {native : Native} {arguments : List Value} {raws : List Raw}
  (resolved : scene.resolve function = .ok (.function place)) (staged : List.Forall₂ scene.Stages arguments raws)
  (room : Site.HasRoom site raws.length)
include resolved staged room

/-- What fails inside a call is a message to the caller. -/
theorem Function.call_failed {message : String} {between : Scene} (reached : between.Reached)
    (untraced : IsUntraced (native.name ++ ": " ++ message))
    (failed : perform code (budget + 2) (.call (.function place) raws (described site).nested) scene =
      evaluation (perform code (budget + 1)) (native.fail message ((described site).nested.enter raws.length)) between) :
    ∃ after, exec (perform code (budget + 2)) (Function.call function arguments) site scene =
      some (.ok (.failed (native.name ++ ": " ++ message)), after) ∧ between.Spares after := by
  have height : ((described site).nested.enter raws.length).height + 22 ≤ Site.maxHeight := by
    have := room.height
    simp only [Site.enter, Site.nested, described]
    omega
  have raised : ∃ number after, evaluation (perform code (budget + 1))
      (native.fail message ((described site).nested.enter raws.length)) between =
        some (.error (.failure (native.name ++ ": " ++ message) number), after) ∧ between.Spares after :=
    evaluation_fail native message reached.describes rfl room.nesting height reached.valid
  obtain ⟨number, after, raised, spares⟩ := raised
  refine ⟨after, ?_, spares⟩
  rw [Function.call_raised resolved staged (failed.trans raised), raisedMessage, untraced.whole]

variable (found : scene.interpreter.heap.functions[place.index]? = some (.native native))
include found

omit resolved staged in
theorem perform_called : perform code (budget + 2) (.call (.function place) raws (described site).nested) scene =
    (exec (perform code (budget + 1)) (native.call code raws) ((described site).nested.enter raws.length) scene).bind
      fun (result, after) =>
        match result with
        | .ok results => some (.ok results, after)
        | .error message =>
          evaluation (perform code (budget + 1)) (native.fail message ((described site).nested.enter raws.length)) after := by
  have nesting : (described site).nested.nesting < Site.maxNesting := Nat.lt_of_succ_lt room.nesting
  rw [perform_function nesting found (.native native), Native.interpret_run_native]

theorem Function.call_delivered {received : Unit} {between finished : Scene} {outcome : Except Error CallResult}
    (disciplined : code.IsDisciplined) (silent : native.isTraced = false) (reached : finished.Reached)
    (checked : exec (perform code (budget + 1)) (native.check raws) ((described site).nested.enter raws.length) scene =
      some (.ok received, between))
    (ran : exec (perform code (budget + 1)) (native.body.run code raws) ((described site).nested.enter raws.length) between =
      some (outcome, finished)) (passes : finished.Passes native.name outcome) :
    ∃ result after, exec (perform code (budget + 2)) (Function.call function arguments) site scene =
      some (.ok result, after) ∧ after.Returns native.name outcome result ∧ finished.Spares after := by
  have called : perform code (budget + 2) (.call (.function place) raws (described site).nested) scene = _ :=
    perform_called room found
  rw [Native.exec_call, Native.exec_receive silent, checked] at called
  simp only [Option.bind_some, ran] at called
  cases outcome with
  | error error =>
    simp only [IsUntraced.raised passes] at called
    obtain ⟨after, told, spares⟩ := Function.call_failed resolved staged room reached passes called
    exact ⟨_, after, told, .error error, spares⟩
  | ok result =>
    cases values : result.values with
    | error message =>
      have refused : result = .failed message := by
        cases result <;> cases values
        rfl
      subst refused
      obtain ⟨after, told, spares⟩ := Function.call_failed resolved staged room reached passes called
      exact ⟨_, after, told, .failed message, spares⟩
    | ok values =>
      rw [Scene.Passes, values] at passes
      obtain ⟨results, ready⟩ := Scene.stages_all passes
      simp only [Native.exec_pass values (ready.imp fun _ _ stages => stages.staged)] at called
      -- Results are counted by how much the stack has grown since the call began.
      have same : finished.stack = scene.stack := Native.stack_body disciplined checked ran found
      obtain ⟨seen, after, told, spares, shown⟩ :=
        Function.call_returned resolved staged called same reached.valid (Scene.stages_kinds ready)
      have received : List.Forall₂ after.Receives _ seen := Scene.stages_receives ready spares.grows.context shown
      exact ⟨_, after, told, Scene.returns_values values received, spares⟩

end Calls

theorem Function.exec_ofNative (reached : scene.Reached) (native : Native) : ∃ function made,
    exec runner (Function.ofNative native) site scene = some (.ok function, made) ∧ made.Reached ∧
      made.HasNative function native := by
  let place := (scene.answer (.newNative native)).1
  let grown := (scene.answer (.newNative native)).2
  have pushed : exec runner (do Stack.pushRaw (.function (← ask (.newNative native))) : Act Unit) site scene =
      some (.ok (), grown.setStack (.function place :: grown.stack)) := rfl
  have still : grown.Reached := reached.answer (.newNative native)
  refine ⟨grown.nextHandle place.index, grown.register (.function place), ?_, still.answer (.register (.function place)),
    place, Scene.resolve_register still.valid (.function place) place.index, ?_⟩
  · exact (exec_bind_ok pushed fun _ => ofTop).trans (Function.exec_ofTop rfl)
  · exact Array.getElem?_push_size

/-- What a call of a native function comes to, by what its check and its body come to. -/
theorem Function.call_native (disciplined : code.IsDisciplined) (reached : scene.Reached) {native : Native}
    (silent : native.isTraced = false) {function : Handle} (known : scene.HasNative function native) {arguments : List Value}
    (held : ∀ value ∈ arguments, scene.Holds value) (room : Site.HasRoom site arguments.length) :
    ∃ raws : Arguments, raws.Match arguments scene.context ∧
      let inside := (described site).nested.enter arguments.length
      let runner := perform code (budget + 1)
      let called := exec (perform code (budget + 2)) (Function.call function arguments) site scene
      match exec runner (native.check raws) inside scene with
      | none => called = none
      | some (.error message, checked) => IsUntraced (native.name ++ ": " ++ message) →
        ∃ after, called = some (.ok (.failed (native.name ++ ": " ++ message)), after) ∧ checked.Spares after
      | some (.ok _, checked) =>
        match exec runner (native.body.run code raws) inside checked with
        | none => called = none
        | some (outcome, finished) => finished.Passes native.name outcome →
          ∃ result after, called = some (.ok result, after) ∧ after.Returns native.name outcome result ∧
            finished.Spares after := by
  obtain ⟨place, resolved, found⟩ := known
  obtain ⟨raws, staged⟩ := Scene.stages_all held
  refine ⟨raws, Arguments.matches_staged staged, ?_⟩
  have count : arguments.length = raws.length := staged.length_eq
  rw [count] at room ⊢
  have task : perform code (budget + 2) (.call (.function place) raws (described site).nested) scene = _ :=
    perform_called room found
  rw [Native.exec_call, Native.exec_receive silent] at task
  have kept : ∀ {α ε : Type} {attempt : Attempt ε α} {site : Site} {before after : Scene} {result : Except ε α},
      exec (perform code (budget + 1)) attempt site before = some (result, after) → before.Reached → after.Reached :=
    fun ran => Scene.Reached.conserved.interpret Scene.Reached.conserved.perform ran
  dsimp only
  -- The task does the check and then the body, and where one of them never ends, the call does not either.
  cases checked : exec (perform code (budget + 1)) (native.check raws) ((described site).nested.enter raws.length) scene with
  | none =>
    rw [checked] at task
    exact Function.call_endless resolved staged task
  | some pair =>
    obtain ⟨received, between⟩ := pair
    have here : between.Reached := kept checked reached
    rw [checked] at task
    cases received with
    | error message => exact fun untraced => Function.call_failed resolved staged room here untraced task
    | ok received =>
      dsimp only
      cases ran : exec (perform code (budget + 1)) (native.body.run code raws) ((described site).nested.enter raws.length)
          between with
      | none =>
        simp only [Option.bind_some, ran] at task
        exact Function.call_endless resolved staged task
      | some pair =>
        obtain ⟨outcome, finished⟩ := pair
        exact Function.call_delivered resolved staged room found disciplined silent (kept ran here) checked ran

end TileScript.Bridge

namespace TileScript
open Bridge

/-- A native function gets the values that its caller gives, if its schema accepts them, and what its body comes
to is what the caller gets. How many values a call gives back is known by how much the stack has grown, so the
code of the host has to leave it as it was. -/
theorem native_call_protocol (code : HostCode) (disciplined : code.IsDisciplined) (scene : Scene) (reached : scene.Reached)
    (name : String) (schema : Option (List Argument)) (body : NativeBody) :
    (∀ (runner : Runner) (site : Script.Site), ∃ function made,
      (Function.ofNative ⟨name, schema, false, body⟩).exec runner site scene = some (.ok function, made) ∧ made.Reached ∧
        made.HasNative function ⟨name, schema, false, body⟩) ∧
    ∀ (function : Handle) (arguments : List Value) (site : Script.Site) (budget : Nat),
      scene.HasNative function ⟨name, schema, false, body⟩ → (∀ value ∈ arguments, scene.Holds value) →
      Site.HasRoom site arguments.length →
      ∃ raws : Arguments, raws.Match arguments scene.context ∧
        let inside := (Attempt.described site).nested.enter arguments.length
        let runner := perform code (budget + 1)
        let called := (Function.call function arguments).exec (perform code (budget + 2)) site scene
        match (Native.check ⟨name, schema, false, body⟩ raws).exec runner inside scene with
        | none => called = none
        | some (.error message, checked) => IsUntraced (name ++ ": " ++ message) →
          ∃ after, called = some (.ok (.failed (name ++ ": " ++ message)), after) ∧ checked.Spares after
        | some (.ok _, checked) =>
          match (body.run code raws).exec runner inside checked with
          | none => called = none
          | some (outcome, finished) => finished.Passes name outcome →
            ∃ result after, called = some (.ok result, after) ∧ after.Returns name outcome result ∧ finished.Spares after :=
  ⟨fun _ _ => Function.exec_ofNative reached _, fun _ _ _ _ known held room =>
    Function.call_native disciplined reached rfl known held room⟩

/-- A function that tells how many arguments it gets. -/
theorem native_call_protocol_count : ∃ function made result after,
    (Function.ofNative ⟨"count", none, false, .count⟩).exec (perform .none 2) .host
      ⟨⟨0⟩, .initial, .initial .blank, []⟩ = some (.ok function, made) ∧
    (Function.call function [.boolean true, .nil]).exec (perform .none 2) .host made = some (.ok (.single result), after) ∧
    Value.same (.ofInt 2) result = true := by
  have start : Scene.Reached ⟨⟨0⟩, .initial, .initial .blank, []⟩ := .opened _ _ _
  have disciplined : HostCode.none.IsDisciplined := fun _ _ _ => .pure _
  obtain ⟨function, made, ran, reached, known⟩ :=
    (native_call_protocol .none disciplined _ start "count" none .count).1 (perform .none 2) .host
  obtain ⟨raws, same, called⟩ := (native_call_protocol .none disciplined made reached "count" none .count).2 function
    [.boolean true, .nil] .host 0 known (by simp [Scene.Holds]) ⟨by decide, by decide⟩
  have passes : made.Passes "count" (.ok (.single (.ofInt raws.length))) := by
    intro value listed
    rw [List.mem_singleton.mp listed]
    trivial
  obtain ⟨result, after, called, returned, -⟩ := called passes
  rw [same.count] at returned
  cases returned with
  | single received => exact ⟨function, made, _, after, ran, called, received.1⟩

/-- Where the body of a native function runs that is called at a site with one argument. -/
def Script.Site.called (site : Script.Site) : Script.Site := (Attempt.described site).nested.enter 1

/-- Code of the host that leaves a value on the stack. -/
def leaving : HostCode where
  patterns := .standard
  run _ _ _ := do
    Stack.push (.boolean true)
    return .none

/-- What a call of a new native function without arguments comes to at a site. -/
def Bridge.Native.tried (native : Native) (code : HostCode) (site : Script.Site) : Option (Except Error CallResult) :=
  ((Function.ofNative native).exec (perform code 2) .host ⟨⟨0⟩, .initial, .initial .blank, []⟩).bind fun (created, made) =>
    created.toOption.bind fun function => ((Function.call function []).exec (perform code 3) site made).map (·.1)

theorem Bridge.Native.exists_of_tried {native : Native} {code : HostCode} {site : Script.Site} {result : Except Error CallResult}
    (told : native.tried code site = some result) : ∃ function made after,
      (Function.ofNative native).exec (perform code 2) .host ⟨⟨0⟩, .initial, .initial .blank, []⟩ = some (.ok function, made) ∧
        (Function.call function []).exec (perform code 3) site made = some (result, after) := by
  simp only [tried, Option.bind_eq_some_iff, Option.map_eq_some_iff] at told
  obtain ⟨⟨created, made⟩, ran, function, known, ⟨_, after⟩, called, rfl⟩ := told
  cases created with
  | error _ => cases known
  | ok _ =>
    cases known
    exact ⟨function, made, after, ran, called⟩

/-- Below 199 calls there is no room for another one, and the body that is called there does not run. Where there is room,
a value that the code of the host leaves on the stack is taken for a result. -/
theorem native_call_beyond_room :
    (∃ function made after,
      (Function.ofNative ⟨"count", none, false, .count⟩).exec (perform .none 2) .host ⟨⟨0⟩, .initial, .initial .blank, []⟩ =
        some (.ok function, made) ∧
      (Function.call function []).exec (perform .none 3) (Script.Site.called^[199] .host) made =
        some (.ok (.failed "C stack overflow"), after)) ∧
    ∃ function made after,
      (Function.ofNative ⟨"leave", none, false, .host 0 []⟩).exec (perform leaving 2) .host
        ⟨⟨0⟩, .initial, .initial .blank, []⟩ = some (.ok function, made) ∧
      (Function.call function []).exec (perform leaving 3) .host made = some (.ok (.single (.boolean true)), after) :=
  ⟨Native.exists_of_tried (by decide +kernel), Native.exists_of_tried (by decide +kernel)⟩

end TileScript
