import TileScript.Proofs.StackRuns
import TileScript.Engine.Command

/-! Failures for want of an object. Reading a handle alone can end in one, so a use of handles that
denote something never does. -/

namespace TileScript.Bridge
open Script

/-- The failures of a handle that denotes nothing where it is used. -/
def Error.IsDangling : Error → Prop
  | .stale | .foreign => True
  | _ => False

theorem Error.not_isDangling {error : Error} : ¬ error.IsDangling ↔ error ≠ .stale ∧ error ≠ .foreign := by
  cases error <;> simp [IsDangling]

namespace Attempt

variable {α β : Type} {runner : Runner} {site : Site} {scene : Scene}

/-- What an act comes to from here is no failure for want of an object. -/
def IntactFrom (act : Act α) (runner : Runner) (site : Site) (scene : Scene) : Prop :=
  ∀ error after, exec runner act site scene = some (.error error, after) → ¬ error.IsDangling

/-- An act that never fails for want of an object. -/
def Intact (act : Act α) : Prop := ∀ runner site scene, IntactFrom act runner site scene

section Rules

variable {act : Act α} {next : α → Act β}

theorem IntactFrom.bind (first : IntactFrom act runner site scene)
    (second : ∀ value between, exec runner act site scene = some (.ok value, between) →
      IntactFrom (next value) runner site between) : IntactFrom (act >>= next) runner site scene := by
  intro error after ran
  rw [exec_bind, Option.bind_eq_some_iff] at ran
  obtain ⟨⟨middle, between⟩, early, late⟩ := ran
  cases middle with
  | ok value => exact second value between early error after late
  | error error =>
    cases late
    exact first _ _ early

theorem Intact.bind (first : Intact act) (second : ∀ value, Intact (next value)) : Intact (act >>= next) :=
  fun runner site scene => (first runner site scene).bind fun value between _ => second value runner site between

theorem intact_pure (value : α) : Intact (pure value) := by
  intro runner site scene error after ran
  cases ran

theorem intact_throw {error : Error} (known : ¬ error.IsDangling) : Intact (throw error : Act α) := by
  intro runner site scene other after ran
  cases ran
  exact known

/-- A failure that is not for want of an object stays that, whatever stands behind it. -/
theorem intact_throw_bind {error : Error} (known : ¬ error.IsDangling) : Intact (throw error >>= next) :=
  intact_throw known

theorem intact_settle {result : Except Error α} (known : ∀ error, result = .error error → ¬ error.IsDangling) :
    Intact (settle result) := by
  intro runner site scene error after ran
  cases ran
  exact known error rfl

theorem intact_ask (request : BridgeRequest α) : Intact (ask request) := by
  intro runner site scene error after ran
  cases ran

theorem intact_evaluate (computation : Site → Eval α) : Intact (evaluate computation) := by
  intro runner site scene error after ran
  rw [exec_evaluate, Option.map_eq_some_iff] at ran
  obtain ⟨_, -, ⟨⟩⟩ := ran

theorem intact_call (callee : Raw) (arguments : List Raw) : Intact (call callee arguments) := by
  intro runner site scene error after ran
  rw [exec_call, Option.map_eq_some_iff] at ran
  obtain ⟨_, -, ⟨⟩⟩ := ran

/-- A failure that is handled later was no such failure either. -/
theorem Intact.handle {next : Except Error α → Act β} (first : Intact act)
    (second : ∀ observed, (∀ error, observed = .error error → ¬ error.IsDangling) → Intact (next observed)) :
    Intact (observe act >>= next) := by
  intro runner site scene error after ran
  rw [exec_bind, exec_observe, Option.bind_map, Option.bind_eq_some_iff] at ran
  obtain ⟨⟨observed, between⟩, early, late⟩ := ran
  refine second observed (fun error failed => ?_) runner site between error after late
  exact first runner site scene error between (failed ▸ early)

end Rules

/-! ### Acts on the stack -/

theorem intact_use (computation : Site → Eval α) : Intact (Act.use computation) := by
  refine (intact_evaluate computation).bind fun result => ?_
  cases result with
  | ok value => exact intact_pure value
  | error raised => exact intact_throw id

theorem intact_kind (value : Raw) : Intact (Act.kind value) := by
  refine intact_settle fun error failed => ?_
  cases known : kindOf value with
  | ok kind =>
    rw [known] at failed
    cases failed
  | error kind =>
    rw [known] at failed
    cases failed
    exact id

theorem intact_pin (value : Raw) (object : Nat) : Intact (Act.pin value object) :=
  (intact_ask _).bind fun _ => (intact_ask _).bind fun _ => intact_pure _

theorem intact_ofRaw (value : Raw) : Intact (Act.ofRaw value) := by
  cases value with
  | table _ | function _ => exact (intact_pin _ _).bind fun _ => intact_pure _
  | nil | boolean _ | integer _ | number _ | string _ => exact intact_pure _
  | thread _ | file | failure _ _ => exact intact_throw id

theorem intact_pushRaw (value : Raw) : Intact (Stack.pushRaw value) :=
  (intact_ask _).bind fun _ => intact_ask _

theorem intact_popRaw : Intact Stack.popRaw := by
  refine (intact_ask _).bind fun values => ?_
  cases values with
  | nil => exact intact_throw id
  | cons value rest => exact (intact_ask _).bind fun _ => intact_pure value

theorem intact_pop : Intact Stack.pop := intact_popRaw.bind intact_ofRaw

theorem intact_remove (count : Nat) : Intact (Stack.remove count) := by
  refine (intact_ask _).bind fun values => ?_
  dsimp only
  split
  · exact intact_throw_bind id
  · exact intact_ask _

theorem intact_rawAt (index : Int) : Intact (Stack.rawAt index) := by
  refine (intact_ask _).bind fun values => ?_
  split
  · exact intact_pure _
  · exact intact_throw id

theorem intact_tableAt (index : Int) : Intact (Stack.tableAt index) := by
  refine (intact_rawAt index).bind fun value => ?_
  split
  · exact intact_pure _
  · exact (intact_kind _).bind fun _ => intact_throw id

theorem intact_setField (index : Int) (name : String) : Intact (Stack.setField index name) :=
  (intact_tableAt index).bind fun _ => intact_popRaw.bind fun _ => intact_use _

theorem intact_protectedCall (count : Nat) : Intact (Stack.protectedCall count) := by
  refine (intact_ask _).bind fun values => ?_
  dsimp only
  split
  · exact intact_throw_bind id
  · refine (intact_ask _).bind fun _ => ?_
    split
    · refine (intact_call _ _).bind fun outcome => ?_
      cases outcome with
      | ok results => exact (intact_ask _).bind fun _ => (intact_ask _).bind fun _ => intact_pure _
      | error raised => exact (intact_pushRaw _).bind fun _ => intact_pure _
    · exact (intact_kind _).bind fun _ => intact_throw id
    · exact intact_throw id

theorem IntactFrom.framed {act : Act α} (intact : IntactFrom act runner site scene) :
    IntactFrom (Stack.framed act) runner site scene := by
  intro error after ran
  change exec runner (Stack.size >>= _) site scene = _ at ran
  rw [exec_bind] at ran
  change exec runner (observe act >>= _) site scene = _ at ran
  rw [exec_bind, exec_observe, Option.bind_map, Option.bind_eq_some_iff] at ran
  obtain ⟨⟨result, between⟩, inside, ran⟩ := ran
  cases ran
  exact intact error between inside

/-! ### Calls -/

theorem intact_readResults (depth : Nat) : Intact (Function.readResults depth) := by
  induction depth with
  | zero => exact intact_pure _
  | succ depth ih =>
    exact ((intact_rawAt _).bind intact_ofRaw).bind fun _ => ih.bind fun _ => intact_pure _

theorem intact_takeResults (depth : Nat) : Intact (Function.takeResults depth) := by
  have size : Intact Stack.size := (intact_ask _).bind fun _ => intact_pure _
  refine size.bind fun size => ?_
  split
  · exact intact_pure _
  · exact intact_pop.bind fun _ => intact_pure _
  · exact (intact_readResults _).handle fun values known => (intact_remove _).bind fun _ =>
      (intact_settle known).bind fun _ => intact_pure _

theorem intact_takeMessage : Intact Function.takeMessage := by
  refine intact_pop.bind fun value => ?_
  split <;> exact intact_pure _

/-- A value with a meaning can be pushed before anything else. -/
theorem IntactFrom.push {value : Value} {raw : Raw} {next : Unit → Act α} (known : scene.rawOf value = .ok raw)
    (rest : IntactFrom (next ()) runner site (scene.setStack (raw :: scene.stack))) :
    IntactFrom (Stack.push value >>= next) runner site scene := by
  intro error after ran
  rw [exec_bind, Stack.exec_push, known] at ran
  exact rest error after ran

theorem intact_pushArguments {pushed : Nat} {arguments : List Value}
    (known : ∀ argument ∈ arguments, ∃ raw, scene.rawOf argument = .ok raw) :
    IntactFrom (Function.pushArguments pushed arguments) runner site scene := by
  induction arguments generalizing pushed scene with
  | nil => exact intact_pure () runner site scene
  | cons argument rest ih =>
    obtain ⟨raw, first⟩ := known argument (List.mem_cons_self ..)
    intro error after ran
    rw [Function.pushArguments, exec_bind, exec_observe, Stack.exec_push, first] at ran
    have others : ∀ other ∈ rest, ∃ raw', (scene.setStack (raw :: scene.stack)).rawOf other = .ok raw' :=
      fun other later => known other (List.mem_cons_of_mem _ later)
    exact ih others error after ran

/-- A call with nothing but values that have a meaning. -/
theorem intact_functionCall {function : Handle} {arguments : List Value} {callee : Raw}
    (found : scene.resolve function = .ok callee)
    (known : ∀ argument ∈ arguments, ∃ raw, scene.rawOf argument = .ok raw) :
    IntactFrom (Function.call function arguments) runner site scene := by
  have pushed : IntactFrom (Function.pushArguments 0 arguments) runner site (scene.setStack (callee :: scene.stack)) :=
    intact_pushArguments known
  have invoked : IntactFrom (Function.invoke function arguments) runner site scene :=
    .push found (pushed.bind fun _ between _ => intact_protectedCall _ _ _ between)
  intro error after ran
  change exec runner (Stack.size >>= _) site scene = _ at ran
  rw [exec_bind] at ran
  refine invoked.bind (fun answer between _ => ?_) error after ran
  cases answer with
  | true => exact intact_takeResults _ _ _ between
  | false => exact intact_takeMessage _ _ between

/-! ### Tables -/

theorem intact_tableField {table : Handle} {place raw : Raw} {value : Value} (found : scene.resolve table = .ok place)
    (known : scene.rawOf value = .ok raw) (name : String) :
    IntactFrom (Table.setField table name value) runner site scene :=
  IntactFrom.framed (.push found (.push known (intact_setField _ _ _ _ _)))

end Attempt
end TileScript.Bridge
