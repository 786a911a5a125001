import TileScript.Proofs.Passages

/-! What the host does with values, tables, functions and globals comes to the same in every context. Only
the handles that it is given, and those that it gives back, are renamed. -/

namespace TileScript.Bridge.Transfer
open Script Attempt Passage

variable {transfer : Transfer} {α ε : Type}

/-! ### Values -/

theorem fixed_use (computation : Site → Eval α) : transfer.Fixed (Act.use computation) := by
  refine (fixed_evaluate computation).bind fun result => ?_
  cases result with
  | ok value => exact fixed_pure value
  | error raised => exact carried_throw _

theorem fixed_kind (value : Raw) : transfer.Fixed (Act.kind value) := fixed_settle _

theorem carried_pin (value : Raw) (object : Nat) :
    transfer.Carried (Act.pin value object) (Act.pin value object) (Handle.rename transfer.ids) := by
  intro site scene offers
  rw [Act.exec_pin, Act.exec_pin]
  exact .some (Except.map (Handle.rename transfer.ids)) (offers.answer trivial)

theorem carried_toRaw (value : Value) :
    transfer.Carried (Act.toRaw value) (Act.toRaw (value.rename transfer.ids)) id := by
  intro site scene offers
  rw [Act.exec_toRaw, Act.exec_toRaw, Passage.rawOf]
  cases scene.rawOf value <;> exact .some (Except.map id) offers

theorem carried_ofRaw (value : Raw) :
    transfer.Carried (Act.ofRaw value) (Act.ofRaw value) (Value.rename transfer.ids) := by
  cases value with
  | table place =>
    exact (carried_pin _ _).bind fun handle => carried_pure (Value.rename transfer.ids) (.table handle)
  | function place =>
    exact (carried_pin _ _).bind fun handle => carried_pure (Value.rename transfer.ids) (.function handle)
  | nil => exact carried_pure (Value.rename transfer.ids) .nil
  | boolean value => exact carried_pure (Value.rename transfer.ids) (.boolean value)
  | integer value => exact carried_pure (Value.rename transfer.ids) (.number (Integer.toDouble value))
  | number value => exact carried_pure (Value.rename transfer.ids) (.number value)
  | string bytes => exact carried_pure (Value.rename transfer.ids) (.string (Utf8.decode bytes))
  | thread _ | file | failure _ _ => exact carried_throw _

/-! ### The stack -/

theorem fixed_size : transfer.Fixed Stack.size := (fixed_ask (by trivial)).bind fun _ => fixed_pure _

theorem fixed_pushRaw (value : Raw) : transfer.Fixed (Stack.pushRaw value) :=
  (fixed_ask (by trivial)).bind fun _ => fixed_ask (by trivial)

theorem fixed_popRaw : transfer.Fixed Stack.popRaw := by
  refine (fixed_ask (by trivial)).bind fun values => ?_
  cases values with
  | nil => exact carried_throw _
  | cons value rest => exact (fixed_ask (by trivial)).bind fun _ => fixed_pure value

theorem carried_push (value : Value) :
    transfer.Carried (Stack.push value) (Stack.push (value.rename transfer.ids)) id :=
  (carried_toRaw value).bind fixed_pushRaw

theorem carried_pop : transfer.Carried Stack.pop Stack.pop (Value.rename transfer.ids) :=
  fixed_popRaw.bind carried_ofRaw

theorem fixed_remove (count : Nat) : transfer.Fixed (Stack.remove count) := by
  refine (fixed_ask (by trivial)).bind fun values => ?_
  dsimp only
  split
  · exact carried_throw_bind _
  · exact fixed_ask (by trivial)

theorem fixed_truncate (depth : Nat) : transfer.Fixed (Stack.truncate depth) :=
  (fixed_ask (by trivial)).bind fun _ => fixed_ask (by trivial)

theorem fixed_takeTop (count : Nat) : transfer.Fixed (Stack.takeTop count) := by
  refine (fixed_ask (by trivial)).bind fun values => ?_
  dsimp only
  split
  · exact carried_throw_bind _
  · exact (fixed_ask (by trivial)).bind fun _ => fixed_pure _

theorem fixed_rawAt (index : Int) : transfer.Fixed (Stack.rawAt index) := by
  refine (fixed_ask (by trivial)).bind fun values => ?_
  split
  · exact fixed_pure _
  · exact carried_throw _

theorem carried_readAt (index : Int) :
    transfer.Carried (Stack.readAt index) (Stack.readAt index) (Value.rename transfer.ids) :=
  (fixed_rawAt index).bind carried_ofRaw

theorem fixed_kindAt (index : Int) : transfer.Fixed (Stack.kindAt index) := (fixed_rawAt index).bind fixed_kind

theorem fixed_tableAt (index : Int) : transfer.Fixed (Stack.tableAt index) := by
  refine (fixed_rawAt index).bind fun value => ?_
  split
  · exact fixed_pure _
  · exact (fixed_kind _).bind fun _ => carried_throw _

theorem fixed_getField (index : Int) (name : String) : transfer.Fixed (Stack.getField index name) :=
  (fixed_tableAt index).bind fun _ => (fixed_use _).bind fixed_pushRaw

theorem fixed_setField (index : Int) (name : String) : transfer.Fixed (Stack.setField index name) :=
  (fixed_tableAt index).bind fun _ => fixed_popRaw.bind fun _ => fixed_use _

theorem fixed_protectedCall (count : Nat) : transfer.Fixed (Stack.protectedCall count) := by
  refine (fixed_ask (by trivial)).bind fun values => ?_
  dsimp only
  split
  · exact carried_throw_bind _
  · refine (fixed_ask (by trivial)).bind fun _ => ?_
    split
    · refine (fixed_call _ _).bind fun outcome => ?_
      cases outcome with
      | ok results =>
        exact (fixed_ask (by trivial)).bind fun _ => (fixed_ask (by trivial)).bind fun _ => fixed_pure _
      | error raised => exact (fixed_pushRaw _).bind fun _ => fixed_pure _
    · exact (fixed_kind _).bind fun _ => carried_throw _
    · exact carried_throw _

theorem Carried.framed {act act' : Act α} {rename : α → α} (carried : transfer.Carried act act' rename) :
    transfer.Carried (Stack.framed act) (Stack.framed act') rename :=
  fixed_size.bind fun depth => carried.observe.bind fun result => (fixed_truncate depth).bind fun _ =>
    carried_settle rename result

/-! ### Tables -/

theorem carried_tableOfTop : transfer.Carried Table.ofTop Table.ofTop (Handle.rename transfer.ids) := by
  refine (fixed_kindAt _).bind fun actual => ?_
  dsimp only
  split
  · exact carried_throw_bind _
  · refine fixed_popRaw.bind fun value => ?_
    split
    · exact carried_pin _ _
    · exact carried_throw _

theorem carried_create : transfer.Carried Table.create Table.create (Handle.rename transfer.ids) :=
  ((fixed_ask (by trivial)).bind fun _ => fixed_pushRaw _).bind fun _ => carried_tableOfTop

theorem carried_getField (table : Handle) (name : String) :
    transfer.Carried (Table.getField table name) (Table.getField (table.rename transfer.ids) name)
      (Value.rename transfer.ids) :=
  Carried.framed ((carried_push (.table table)).bind fun _ => (fixed_getField _ name).bind fun _ => carried_pop)

theorem carried_setField (table : Handle) (name : String) (value : Value) :
    transfer.Carried (Table.setField table name value)
      (Table.setField (table.rename transfer.ids) name (value.rename transfer.ids)) id :=
  Carried.framed ((carried_push (.table table)).bind fun _ => (carried_push value).bind fun _ => fixed_setField _ name)

theorem carried_fieldKind (table : Handle) (name : String) :
    transfer.Carried (Table.fieldKind table name) (Table.fieldKind (table.rename transfer.ids) name) id :=
  Carried.framed ((carried_push (.table table)).bind fun _ => (fixed_getField _ name).bind fun _ => fixed_kindAt _)

theorem carried_setFields (table : Handle) (fields : List (String × Value)) :
    transfer.Carried (Table.setFields table fields) (Table.setFields (table.rename transfer.ids)
      (fields.map (Prod.map id (Value.rename transfer.ids)))) id := by
  induction fields with
  | nil => exact fixed_pure ()
  | cons field rest ih => exact (carried_setField table field.1 field.2).bind fun _ => ih

/-! ### Functions -/

theorem carried_functionOfTop : transfer.Carried Function.ofTop Function.ofTop (Handle.rename transfer.ids) := by
  refine (fixed_kindAt _).bind fun actual => ?_
  dsimp only
  split
  · exact carried_throw_bind _
  · refine fixed_popRaw.bind fun value => ?_
    split
    · exact carried_pin _ _
    · exact carried_throw _

theorem carried_ofApi (function : Api) :
    transfer.Carried (Function.ofNative (.ofApi function)) (Function.ofNative (.ofApi function))
      (Handle.rename transfer.ids) := by
  have made : transfer.Fixed (ask (.newNative (.ofApi function)) : Act FunctionRef) :=
    carried_ask ⟨function, rfl⟩ fun _ => rfl
  exact made.bind fun _ => (fixed_pushRaw _).bind fun _ => carried_functionOfTop

theorem carried_ofChunk (name text : String) :
    transfer.Carried (Function.ofChunk name text) (Function.ofChunk name text) (Handle.rename transfer.ids) := by
  unfold Function.ofChunk
  split
  · exact carried_throw _
  · exact (fixed_ask (by trivial)).bind fun _ => (fixed_pushRaw _).bind fun _ => carried_functionOfTop

theorem carried_pushArguments (pushed : Nat) (arguments : List Value) :
    transfer.Carried (Function.pushArguments pushed arguments)
      (Function.pushArguments pushed (arguments.map (·.rename transfer.ids))) id := by
  induction arguments generalizing pushed with
  | nil => exact fixed_pure ()
  | cons argument rest ih =>
    refine (carried_push argument).observe.bind fun result => ?_
    cases result with
    | ok _ => exact ih (pushed + 1)
    | error error => exact (fixed_remove _).bind fun _ => carried_throw error

theorem carried_readResults (depth : Nat) :
    transfer.Carried (Function.readResults depth) (Function.readResults depth) (List.map (Value.rename transfer.ids)) := by
  induction depth with
  | zero => exact carried_pure (List.map (Value.rename transfer.ids)) []
  | succ depth ih =>
    exact (carried_readAt _).bind fun value => ih.bind fun values =>
      carried_pure (List.map (Value.rename transfer.ids)) (value :: values)

theorem carried_invoke (function : Handle) (arguments : List Value) :
    transfer.Carried (Function.invoke function arguments)
      (Function.invoke (function.rename transfer.ids) (arguments.map (·.rename transfer.ids))) id := by
  refine (carried_push (.function function)).bind fun _ => (carried_pushArguments 0 arguments).bind fun _ => ?_
  rw [List.length_map]
  exact fixed_protectedCall _

theorem carried_takeResults (before : Nat) :
    transfer.Carried (Function.takeResults before) (Function.takeResults before) (CallResult.rename transfer.ids) := by
  refine fixed_size.bind fun size => ?_
  split
  · exact carried_pure (CallResult.rename transfer.ids) .none
  · exact carried_pop.bind fun value => carried_pure (CallResult.rename transfer.ids) (.single value)
  · exact (carried_readResults _).observe.bind fun values => (fixed_remove _).bind fun _ =>
      (carried_settle _ values).bind fun known => carried_pure (CallResult.rename transfer.ids) (.multiple known)

theorem carried_takeMessage :
    transfer.Carried Function.takeMessage Function.takeMessage (CallResult.rename transfer.ids) := by
  refine carried_pop.bind fun value => ?_
  cases value with
  | string message => exact carried_pure (CallResult.rename transfer.ids) (.failed message)
  | number _ | boolean _ | nil | table _ | function _ =>
    exact carried_pure (CallResult.rename transfer.ids) (.failed _)

theorem carried_functionCall (function : Handle) (arguments : List Value) :
    transfer.Carried (Function.call function arguments)
      (Function.call (function.rename transfer.ids) (arguments.map (·.rename transfer.ids)))
      (CallResult.rename transfer.ids) := by
  refine fixed_size.bind fun before => (carried_invoke function arguments).bind fun answer => ?_
  cases answer with
  | true => exact carried_takeResults before
  | false => exact carried_takeMessage

/-! ### Globals -/

theorem carried_setGlobal (name : String) (value : Value) :
    transfer.Carried (Global.set name value) (Global.set name (value.rename transfer.ids)) id :=
  (carried_push value).bind fun _ => fixed_popRaw.bind fun _ => fixed_use _

end TileScript.Bridge.Transfer
