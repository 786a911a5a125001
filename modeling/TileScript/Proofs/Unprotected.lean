import TileScript.Script.Library

/-! Evaluations that protect none of the calls they make. All instructions of scripts are of this kind: what a call
raises in one of them is raised by it, with nothing done in between. -/

namespace TileScript.Script

/-- What is called with what the task raises. -/
def Task.handler : Task → Option Raw
  | .call _ _ site => site.handler
  | .execute machine => machine.site.handler
  | .exit _ => none

/-- That whatever is left to do has the handler. -/
def Step.Keeps (handler : Option Raw) : Step → Prop
  | .finish _ | .exit _ => True
  | .again task => task.handler = handler

/-- All tasks of the program have the handler, and whatever one of them raises is what the program comes to. Else it
comes to something that fits. -/
def Program.Unprotected {Request : Type → Type} {α : Type} (handler : Option Raw) (fits : α → Prop) :
    Program Request (Except Raw α) → Prop
  | .pure result => ∀ value, result = .ok value → fits value
  | .request _ next => ∀ answer, (next answer).Unprotected handler fits
  | .run task next => task.handler = handler ∧ (∀ raised, next (.error raised) = .pure (.error raised)) ∧
      ∀ values, (next (.ok values)).Unprotected handler fits

namespace Eval

variable {α β : Type} {handler : Option Raw}

/-- An evaluation that protects none of its calls, and comes to something that fits. -/
def UnprotectedFor (handler : Option Raw) (fits : α → Prop) (computation : Eval α) : Prop :=
  Program.Unprotected handler fits computation.run

/-- An evaluation that protects none of its calls. -/
abbrev Unprotected (handler : Option Raw) (computation : Eval α) : Prop := computation.UnprotectedFor handler fun _ => True

/-- An evaluation that protects none of its calls, and leaves the rest to tasks with the same handler. -/
abbrev UnprotectedStep (handler : Option Raw) (computation : Eval Step) : Prop :=
  computation.UnprotectedFor handler (Step.Keeps handler)

theorem unprotected_result {fits : α → Prop} {value : α} (known : fits value) :
    (pure value : Eval α).UnprotectedFor handler fits := by
  rintro _ ⟨⟩
  exact known

theorem unprotected_pure (value : α) : (pure value : Eval α).Unprotected handler := unprotected_result trivial

theorem unprotected_throw {fits : α → Prop} (raised : Raw) : (throw raised : Eval α).UnprotectedFor handler fits := nofun

theorem unprotected_ask (request : HeapRequest α) : (ask request).Unprotected handler := fun _ => unprotected_pure _

theorem unprotected_perform (task : Task) : (perform task).Unprotected task.handler :=
  ⟨rfl, fun _ => rfl, fun _ => unprotected_pure _⟩

variable {fits : β → Prop} {computation : Eval α} {next : α → Eval β}

theorem Unprotected.bind (first : computation.Unprotected handler) (rest : ∀ value, (next value).UnprotectedFor handler fits) :
    (computation >>= next).UnprotectedFor handler fits := by
  change Program.Unprotected handler fits (Program.bind computation.run (ExceptT.bindCont next))
  unfold Unprotected UnprotectedFor at first
  generalize computation.run = program at first ⊢
  induction program with
  | pure result =>
    cases result with
    | ok value => exact rest value
    | error raised => exact unprotected_throw raised
  | request request onward ih => exact fun answer => ih answer (first answer)
  | run task onward ih =>
    obtain ⟨same, raised, returned⟩ := first
    refine ⟨same, fun value => ?_, fun values => ih _ (returned values)⟩
    change Program.bind (onward (.error value)) _ = _
    rw [raised value]
    rfl

theorem unprotected_mapM {γ : Type} {each : γ → Eval α} (all : ∀ item, (each item).Unprotected handler) (items : List γ) :
    (items.mapM each).Unprotected handler := by
  suffices ∀ done, (List.mapM.loop each items done).Unprotected handler from this []
  induction items with
  | nil => exact fun _ => unprotected_pure _
  | cons item rest ih => exact fun done => (all item).bind fun value => ih (value :: done)

theorem unprotected_foldlM {γ : Type} {each : α → γ → Eval α}
    (all : ∀ start item, (each start item).Unprotected handler) (items : List γ) (start : α) :
    (items.foldlM each start).Unprotected handler := by
  induction items generalizing start with
  | nil => exact unprotected_pure _
  | cons item rest ih =>
    rw [List.foldlM_cons]
    exact (all start item).bind ih

end Eval

open Eval

/-! ### Places -/

namespace Site

variable {α : Type} (site : Site)

theorem unprotected_call (callee : Raw) (arguments : List Raw) : (site.call callee arguments).Unprotected site.handler :=
  unprotected_perform _

theorem unprotected_callOne (callee : Raw) (arguments : List Raw) : (site.callOne callee arguments).Unprotected site.handler :=
  (site.unprotected_call callee arguments).bind fun _ => unprotected_pure _

theorem unprotected_raise (value : Raw) : (site.raise value : Eval α).Unprotected site.handler := by
  rw [raise]
  split
  · exact unprotected_throw _
  · exact (site.unprotected_callOne _ _).bind fun _ => unprotected_throw _

theorem unprotected_failBytes (message : ByteArray) : (site.failBytes message : Eval α).Unprotected site.handler :=
  site.unprotected_raise _

theorem unprotected_fail (message : String) : (site.fail message : Eval α).Unprotected site.handler :=
  site.unprotected_failBytes _

theorem unprotected_claim (height : Nat) : (site.claim height).Unprotected site.handler := by
  unfold claim
  split
  · split
    · exact unprotected_throw _
    · exact unprotected_pure _
  · split
    · exact Site.unprotected_fail { site with inReserve := true } _
    · exact unprotected_pure _

theorem unprotected_metavalue {handler : Option Raw} (value : Raw) (name : String) :
    (metavalue value name).Unprotected handler := by
  refine (unprotected_ask _).bind fun metatable? => ?_
  cases metatable? with
  | some metatable => exact unprotected_ask _
  | none => exact unprotected_pure _

theorem unprotected_typeName {handler : Option Raw} (value : Raw) : (typeName value).Unprotected handler := by
  unfold typeName
  split
  iterate 3
    refine (unprotected_metavalue _ _).bind fun name => ?_
    split <;> exact unprotected_pure _
  exact unprotected_pure _

theorem unprotected_failType (what : String) (value : Raw) (mention : ByteArray) :
    (site.failType what value mention : Eval α).Unprotected site.handler :=
  (unprotected_typeName value).bind fun _ => site.unprotected_failBytes _

theorem unprotected_failOn (what : String) (value : Raw) (subject : Subject) :
    (site.failOn what value subject : Eval α).Unprotected site.handler := site.unprotected_failType what value _

theorem unprotected_resolve (fuel : Nat) (callee : Raw) (arguments : List Raw) :
    (site.resolve fuel callee arguments).Unprotected site.handler := by
  induction fuel generalizing callee arguments with
  | zero => exact site.unprotected_fail _
  | succ fuel ih =>
    unfold resolve
    split
    · exact unprotected_pure _
    · refine (unprotected_metavalue _ _).bind fun handler => ?_
      split
      · exact site.unprotected_failType _ _ _
      · exact ih _ _

/-! ### Tables -/

theorem unprotected_indexChain (key : Raw) (fuel : Nat) (object : Raw) (subject : Subject) :
    (site.indexChain key fuel object subject).Unprotected site.handler := by
  induction fuel generalizing object subject with
  | zero => exact site.unprotected_fail _
  | succ fuel ih =>
    unfold indexChain
    cases object with
    | table table =>
      refine (unprotected_ask _).bind fun value => ?_
      dsimp only
      split
      · exact unprotected_pure _
      · refine (unprotected_metavalue _ _).bind fun handler => ?_
        split
        · exact unprotected_pure _
        · exact site.unprotected_callOne _ _
        · exact ih _ _
    | nil | boolean _ | integer _ | number _ | string _ | function _ | thread _ | file | failure _ _ =>
      refine (unprotected_pure _).bind fun value => ?_
      dsimp only
      split
      · exact unprotected_pure _
      · refine (unprotected_metavalue _ _).bind fun handler => ?_
        split
        · exact site.unprotected_failOn _ _ _
        · exact site.unprotected_callOne _ _
        · exact ih _ _

theorem unprotected_index (object key : Raw) (subject : Subject) : (site.index object key subject).Unprotected site.handler :=
  site.unprotected_indexChain key _ object subject

theorem unprotected_rawSet (table : TableRef) (key value : Raw) : (site.rawSet table key value).Unprotected site.handler := by
  unfold rawSet
  split
  · exact site.unprotected_fail _
  · exact unprotected_ask _

theorem unprotected_assignChain (key value : Raw) (fuel : Nat) (object : Raw) (subject : Subject) :
    (site.assignChain key value fuel object subject).Unprotected site.handler := by
  induction fuel generalizing object subject with
  | zero => exact site.unprotected_fail _
  | succ fuel ih =>
    unfold assignChain
    have called (handler : FunctionRef) : Unprotected site.handler (do
        let _ ← site.call (.function handler) [object, key, value] : Eval Unit) :=
      (site.unprotected_call _ _).bind fun _ => unprotected_pure _
    cases object with
    | table table =>
      refine (unprotected_ask _).bind fun old => ?_
      dsimp only
      split
      · exact site.unprotected_rawSet _ _ _
      · refine (unprotected_metavalue _ _).bind fun handler => ?_
        split
        · exact site.unprotected_rawSet _ _ _
        · exact called _
        · exact ih _ _
    | nil | boolean _ | integer _ | number _ | string _ | function _ | thread _ | file | failure _ _ =>
      refine (unprotected_pure _).bind fun old => ?_
      refine (unprotected_metavalue _ _).bind fun handler => ?_
      split
      · exact site.unprotected_failOn _ _ _
      · exact called _
      · exact ih _ _

theorem unprotected_assign (object key value : Raw) (subject : Subject) :
    (site.assign object key value subject).Unprotected site.handler := site.unprotected_assignChain key value _ object subject

theorem unprotected_length (value : Raw) (subject : Subject) : (site.length value subject).Unprotected site.handler := by
  unfold length
  split
  · exact unprotected_pure _
  · refine (unprotected_metavalue _ _).bind fun handler => ?_
    split
    · exact (unprotected_ask _).bind fun _ => unprotected_pure _
    · exact site.unprotected_failOn _ _ _
    · exact site.unprotected_callOne _ _

/-! ### Operators -/

theorem unprotected_takeOver (name : String) (left right : Raw) : (site.takeOver? name left right).Unprotected site.handler := by
  refine (unprotected_metavalue _ _).bind fun first => ?_
  have taken (handler : Raw) : Unprotected site.handler (if handler.isNil then pure none else do
      return some (← site.callOne handler [left, right]) : Eval (Option Raw)) := by
    split
    · exact unprotected_pure _
    · exact (site.unprotected_callOne _ _).bind fun _ => unprotected_pure _
  dsimp only
  split
  · exact (unprotected_metavalue _ _).bind taken
  · exact (unprotected_pure _).bind taken

theorem unprotected_failOnOperands (what : String) (left right : Operand) :
    (site.failOnOperands what left right : Eval α).Unprotected site.handler := site.unprotected_failOn _ _ _

theorem unprotected_failOnBits (left right : Operand) : (site.failOnBits left right : Eval α).Unprotected site.handler := by
  unfold failOnBits
  split
  · exact site.unprotected_failBytes _
  · exact site.unprotected_failOnOperands _ _ _

theorem unprotected_arithmetic (operator : ArithmeticOperator) (left right : Operand) :
    (site.arithmetic operator left right).Unprotected site.handler := by
  unfold arithmetic
  split
  · exact unprotected_pure _
  · exact site.unprotected_fail _
  · refine (site.unprotected_takeOver _ _ _).bind fun result? => ?_
    split
    · exact unprotected_pure _
    · split
      · exact site.unprotected_failOnBits _ _
      · exact site.unprotected_failOnOperands _ _ _

theorem unprotected_unary (operator : UnaryOperator) (operand : Operand) :
    (site.unary operator operand).Unprotected site.handler := by
  unfold unary
  dsimp only
  split
  · exact unprotected_pure _
  · exact site.unprotected_length _ _
  · exact unprotected_pure _
  · exact unprotected_pure _
  · refine (site.unprotected_takeOver _ _ _).bind fun result? => ?_
    split
    · exact unprotected_pure _
    · exact site.unprotected_failOnOperands _ _ _
  · split
    · exact unprotected_pure _
    · refine (site.unprotected_takeOver _ _ _).bind fun result? => ?_
      split
      · exact unprotected_pure _
      · exact site.unprotected_failOnBits _ _

theorem unprotected_concatenate (left right : Operand) : (site.concatenate left right).Unprotected site.handler := by
  unfold concatenate
  split
  · exact unprotected_pure _
  · refine (site.unprotected_takeOver _ _ _).bind fun result? => ?_
    split
    · exact unprotected_pure _
    · exact site.unprotected_failOn _ _ _

theorem unprotected_equals (left right : Raw) : (site.equals left right).Unprotected site.handler := by
  unfold equals
  split
  · split
    · exact unprotected_pure _
    · refine (site.unprotected_takeOver _ _ _).bind fun result? => ?_
      split <;> exact unprotected_pure _
  · exact unprotected_pure _

theorem unprotected_compare (operator : OrderOperator) (left right : Raw) :
    (site.compare operator left right).Unprotected site.handler := by
  unfold compare
  split
  · exact unprotected_pure _
  · refine (site.unprotected_takeOver _ _ _).bind fun result? => ?_
    split
    · exact unprotected_pure _
    · refine (unprotected_typeName _).bind fun a => (unprotected_typeName _).bind fun b => ?_
      split <;> exact site.unprotected_failBytes _

end Site

/-! ### Loops -/

namespace Counting

theorem unprotected_numeral (site : Site) (what : String) (value : Raw) : (numeral site what value).Unprotected site.handler := by
  unfold numeral
  split
  · exact unprotected_pure _
  · exact (Site.unprotected_typeName _).bind fun _ => site.unprotected_failBytes _

theorem unprotected_start (site : Site) (first limit step : Raw) : (start? site first limit step).Unprotected site.handler := by
  have numeral := unprotected_numeral site
  unfold start?
  split
  · dsimp only
    split
    · exact (site.unprotected_fail _).bind fun _ => (numeral _ _).bind fun _ => unprotected_pure _
    · exact (numeral _ _).bind fun _ => unprotected_pure _
  · refine (numeral _ _).bind fun _ => (numeral _ _).bind fun _ => (numeral _ _).bind fun _ => ?_
    dsimp only
    split
    · exact (site.unprotected_fail _).bind fun _ => unprotected_pure _
    · exact unprotected_pure _

end Counting

/-! ### Registers -/

namespace Frame

variable {handler : Option Raw} (frame : Frame)

theorem unprotected_read (register : Nat) : (frame.read register).Unprotected handler := by
  unfold read
  split
  · exact unprotected_pure _
  · exact unprotected_ask _
  · exact unprotected_pure _

theorem unprotected_write (register : Nat) (value : Raw) : (frame.write register value).Unprotected handler := by
  unfold write
  split
  · exact (unprotected_ask _).bind fun _ => unprotected_pure _
  · exact unprotected_pure _

theorem unprotected_readMany (first count : Nat) : (frame.readMany first count).Unprotected handler :=
  unprotected_mapM frame.unprotected_read _

theorem unprotected_writeMany (first count : Nat) (values : List Raw) :
    (frame.writeMany first count values).Unprotected handler := by
  induction count generalizing frame first values with
  | zero => exact unprotected_pure _
  | succ count ih => exact (frame.unprotected_write _ _).bind fun _ => ih _ _ _

theorem unprotected_valuesFrom (first : Nat) (count : Option Nat) : (frame.valuesFrom first count).Unprotected handler := by
  cases count with
  | some count => exact frame.unprotected_readMany _ _
  | none => exact (frame.unprotected_readMany _ _).bind fun _ => unprotected_pure _

theorem unprotected_hold (first : Nat) (values : List Raw) (count : Option Nat) :
    (frame.hold first values count).Unprotected handler := by
  cases count with
  | some count => exact frame.unprotected_writeMany _ _ _
  | none => exact unprotected_pure _

theorem unprotected_source (source : Source) : (frame.source source).Unprotected handler := by
  cases source with
  | register register => exact frame.unprotected_read _
  | constant value => exact unprotected_pure _

theorem unprotected_operand (source : Source) : (frame.operand source).Unprotected handler :=
  (frame.unprotected_source source).bind fun _ => unprotected_pure _

theorem unprotected_share (register : Nat) : (frame.share register).Unprotected handler := by
  unfold share
  split
  · exact unprotected_pure _
  · exact (frame.unprotected_read _).bind fun _ => (unprotected_ask _).bind fun _ => unprotected_pure _

theorem unprotected_capture (sources : List UpvalueSource) (cells : Array CellRef) :
    (frame.capture sources cells).Unprotected handler := by
  induction sources generalizing frame cells with
  | nil => exact unprotected_pure _
  | cons found rest ih =>
    unfold capture
    split
    · exact (frame.unprotected_share _).bind fun _ => ih _ _
    · exact ih _ _

theorem unprotected_receive (values : List Raw) : (frame.receive values).Unprotected handler := by
  unfold receive
  split
  · exact (frame.unprotected_hold _ _ _).bind fun _ => unprotected_pure _
  · exact unprotected_pure _

end Frame

/-! ### Instructions -/

namespace Machine

variable (machine : Machine)

theorem unprotected_tellAll (registers : List Nat) : (machine.tellAll registers).Unprotected machine.site.handler := by
  induction registers with
  | nil => exact unprotected_pure _
  | cons register rest ih =>
    have told (value : Raw) : (tell machine.here value .nil).Unprotected machine.site.handler :=
      (Site.unprotected_metavalue _ _).bind fun _ => (machine.here.unprotected_call _ _).bind fun _ => unprotected_pure _
    exact (machine.frame.unprotected_read _).bind fun _ => (told _).bind fun _ => ih

theorem unprotected_closeLater (register : Nat) : (machine.closeLater register).Unprotected machine.site.handler := by
  refine (machine.frame.unprotected_read _).bind fun value => ?_
  dsimp only
  split
  · exact unprotected_pure _
  · refine (Site.unprotected_metavalue _ _).bind fun handler => ?_
    split
    · exact machine.here.unprotected_fail _
    · exact unprotected_pure _

theorem unprotected_close (first : Nat) : (machine.close first).Unprotected machine.site.handler :=
  (machine.unprotected_tellAll _).bind fun _ => unprotected_pure _

theorem unprotected_proceed (frame : Frame) :
    (pure (machine.proceed frame) : Eval Step).UnprotectedStep machine.site.handler := unprotected_result rfl

theorem unprotected_start (closure : Closure) (arguments : List Raw) (site : Site) :
    (start closure arguments site).UnprotectedFor site.handler fun machine => machine.site.handler = site.handler :=
  (site.unprotected_claim _).bind fun _ => unprotected_result rfl

theorem unprotected_deliver (values : List Raw) : (machine.deliver values).UnprotectedStep machine.site.handler := by
  unfold deliver
  split
  · exact unprotected_result trivial
  · exact (Frame.unprotected_receive _ _).bind fun _ => unprotected_result rfl

theorem unprotected_callee (register : Nat) (arguments : Option Nat) {next : FunctionRef × List Raw → Eval Step}
    (rest : ∀ found, (next found).UnprotectedStep machine.site.handler) :
    UnprotectedStep machine.site.handler (do
      next (← (machine.callSite register).resolve Site.maxChain (← machine.frame.read register)
        (← machine.frame.valuesFrom (register + 1) arguments))) :=
  (machine.frame.unprotected_read _).bind fun _ => (machine.frame.unprotected_valuesFrom _ _).bind fun _ =>
    ((machine.callSite register).unprotected_resolve _ _ _).bind rest

theorem unprotected_call (register : Nat) (arguments : Option Nat) :
    (machine.call register arguments).UnprotectedStep machine.site.handler := by
  refine machine.unprotected_callee register arguments fun ⟨function, values⟩ => ?_
  refine (unprotected_ask _).bind fun closure? => ?_
  cases closure? with
  | some closure => exact ((machine.callSite register).unprotected_claim _).bind fun _ => unprotected_result rfl
  | none => exact (unprotected_perform _).bind fun _ => (Frame.unprotected_receive _ _).bind fun _ => unprotected_result rfl

theorem unprotected_tailCall (register : Nat) (arguments : Option Nat) :
    (machine.tailCall register arguments).UnprotectedStep machine.site.handler := by
  refine machine.unprotected_callee register arguments fun ⟨function, values⟩ => ?_
  refine (unprotected_ask _).bind fun closure? => ?_
  cases closure? with
  | some closure => exact ((machine.callSite register).unprotected_claim _).bind fun _ => unprotected_result rfl
  | none => exact (unprotected_perform _).bind fun _ => machine.unprotected_deliver _

/-- No instruction protects a call that it makes. -/
theorem unprotected_step : machine.step.UnprotectedStep machine.site.handler := by
  have read (register : Nat) : (machine.frame.read register).Unprotected machine.site.handler :=
    machine.frame.unprotected_read register
  have put (target : Nat) (value : Raw) :
      UnprotectedStep machine.site.handler (do
        return machine.proceed (← machine.frame.write target value).next) :=
    (machine.frame.unprotected_write target value).bind fun _ => machine.unprotected_proceed _
  have many (first count : Nat) (values : List Raw) (next : Frame → Frame) :
      UnprotectedStep machine.site.handler (do
        return machine.proceed (next (← machine.frame.writeMany first count values))) :=
    (machine.frame.unprotected_writeMany first count values).bind fun _ => machine.unprotected_proceed _
  unfold step
  dsimp only
  cases machine.frame.instruction with
  | move target source => exact (read _).bind (put _)
  | load target value => exact put _ _
  | loadFalse target => exact (machine.frame.unprotected_write _ _).bind fun _ => machine.unprotected_proceed _
  | loadNil first last => exact many _ _ _ Frame.next
  | getUpvalue target index => exact (unprotected_ask _).bind (put _)
  | setUpvalue source index => exact (read _).bind fun _ => (unprotected_ask _).bind fun _ => machine.unprotected_proceed _
  | getGlobal target upvalue key =>
    exact (unprotected_ask _).bind fun _ => (machine.here.unprotected_index _ _ _).bind (put _)
  | get target object key =>
    exact (read _).bind fun _ => (read _).bind fun _ => (machine.here.unprotected_index _ _ _).bind (put _)
  | getInteger target object key | getField target object key =>
    exact (read _).bind fun _ => (machine.here.unprotected_index _ _ _).bind (put _)
  | setGlobal upvalue key value =>
    exact (unprotected_ask _).bind fun _ => (machine.frame.unprotected_source _).bind fun _ =>
      (machine.here.unprotected_assign _ _ _ _).bind fun _ => machine.unprotected_proceed _
  | set object key value =>
    exact (read _).bind fun _ => (read _).bind fun _ => (machine.frame.unprotected_source _).bind fun _ =>
      (machine.here.unprotected_assign _ _ _ _).bind fun _ => machine.unprotected_proceed _
  | setInteger object key value | setField object key value =>
    exact (read _).bind fun _ => (machine.frame.unprotected_source _).bind fun _ =>
      (machine.here.unprotected_assign _ _ _ _).bind fun _ => machine.unprotected_proceed _
  | newTable target items fields => exact (unprotected_ask _).bind fun _ => put _ _
  | method target object key =>
    exact (read _).bind fun _ => (machine.frame.unprotected_source _).bind fun _ =>
      (machine.here.unprotected_index _ _ _).bind fun _ => (machine.frame.unprotected_write _ _).bind fun frame =>
        (frame.unprotected_write _ _).bind fun _ => machine.unprotected_proceed _
  | arithmetic operator target left right isFlipped =>
    exact (machine.frame.unprotected_operand _).bind fun _ => (machine.frame.unprotected_operand _).bind fun _ =>
      (machine.here.unprotected_arithmetic _ _ _).bind (put _)
  | unary operator target source =>
    exact (machine.frame.unprotected_operand _).bind fun _ => (machine.here.unprotected_unary _ _).bind (put _)
  | concatenate first count =>
    refine (machine.frame.unprotected_operand _).bind fun last => ?_
    refine (unprotected_foldlM (fun right register => ?_) _ last).bind fun _ => put _ _
    exact (machine.frame.unprotected_operand _).bind fun _ =>
      (machine.here.unprotected_concatenate _ _).bind fun _ => unprotected_pure _
  | close first => exact (machine.unprotected_close _).bind fun _ => machine.unprotected_proceed _
  | closeLater register => exact (machine.unprotected_closeLater _).bind fun _ => machine.unprotected_proceed _
  | jump destination => exact machine.unprotected_proceed _
  | equal left right expected =>
    refine (read _).bind fun _ => ?_
    cases right with
    | constant value => exact machine.unprotected_proceed _
    | register register =>
      exact (read _).bind fun _ => (machine.here.unprotected_equals _ _).bind fun _ => machine.unprotected_proceed _
  | order operator left right expected =>
    exact (machine.frame.unprotected_source _).bind fun _ => (machine.frame.unprotected_source _).bind fun _ =>
      (machine.here.unprotected_compare _ _ _).bind fun _ => machine.unprotected_proceed _
  | test source expected => exact (read _).bind fun _ => machine.unprotected_proceed _
  | testSet target source expected =>
    refine (read _).bind fun value => ?_
    cases target with
    | none => exact (unprotected_pure _).bind fun _ => machine.unprotected_proceed _
    | some target =>
      dsimp only
      split
      · exact (machine.frame.unprotected_write _ _).bind fun _ => machine.unprotected_proceed _
      · exact (unprotected_pure _).bind fun _ => machine.unprotected_proceed _
  | call function arguments results => exact machine.unprotected_call _ _
  | tailCall function arguments => exact machine.unprotected_tailCall _ _
  | leave first count =>
    exact (machine.frame.unprotected_valuesFrom _ _).bind fun _ => (machine.unprotected_tellAll _).bind fun _ =>
      machine.unprotected_deliver _
  | prepareCount base destination =>
    refine (read _).bind fun _ => (read _).bind fun _ => (read _).bind fun _ => ?_
    refine (Counting.unprotected_start machine.here _ _ _).bind fun start? => ?_
    cases start? with
    | none => exact machine.unprotected_proceed _
    | some start => exact many _ _ _ Frame.next
  | repeatCount base destination =>
    refine (read _).bind fun _ => (read _).bind fun _ => (read _).bind fun _ => ?_
    split
    · exact machine.unprotected_proceed _
    · exact many _ _ _ (·.goTo destination)
  | prepareEach base destination => exact (machine.unprotected_closeLater _).bind fun _ => machine.unprotected_proceed _
  | callEach base count =>
    exact (machine.frame.unprotected_readMany _ _).bind fun _ => (read _).bind fun _ =>
      ((machine.callSite (base + 4)).unprotected_call _ _).bind fun _ => many _ _ _ Frame.next
  | repeatEach base destination =>
    refine (read _).bind fun control => ?_
    split
    · exact machine.unprotected_proceed _
    · exact (machine.frame.unprotected_write _ _).bind fun _ => machine.unprotected_proceed _
  | setItems register count stored =>
    refine (machine.frame.unprotected_valuesFrom _ _).bind fun _ => (read _).bind fun table => ?_
    split
    · exact (unprotected_ask _).bind fun _ => machine.unprotected_proceed _
    · exact (unprotected_pure ()).bind fun _ => machine.unprotected_proceed _
  | closure target index =>
    dsimp only
    split
    · exact machine.unprotected_proceed _
    · exact (machine.frame.unprotected_capture _ _).bind fun _ => (unprotected_ask _).bind fun _ =>
        (Frame.unprotected_write _ _ _).bind fun _ => machine.unprotected_proceed _
  | varargs target count => exact (machine.frame.unprotected_hold _ _ _).bind fun _ => machine.unprotected_proceed _
  | separateArguments parameters => exact (machine.here.unprotected_claim _).bind fun _ => machine.unprotected_proceed _

end Machine

end TileScript.Script
