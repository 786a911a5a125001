import TileScript.Script.Counting

/-!
Running instructions. One step runs one instruction of the innermost function. A call of a function
of a script makes it the innermost one, whatever else is called runs to its end within the step.
-/

namespace TileScript.Script
namespace Frame

/-! ### Registers -/

def read (frame : Frame) (register : Nat) : Eval Raw :=
  match frame.registers[register]? with
  | some (.value value) => return value
  | some (.shared cell) => Eval.ask (.cell cell)
  | none => return .nil

def write (frame : Frame) (register : Nat) (value : Raw) : Eval Frame :=
  match frame.registers[register]? with
  | some (.shared cell) => do
    Eval.ask (.setCell cell value)
    return frame
  | _ =>
    return { frame with registers := frame.registers.setIfInBounds register (.value value) }

/-- The values of registers in a row. -/
def readMany (frame : Frame) (first count : Nat) : Eval (List Raw) :=
  (List.range' first count).mapM frame.read

/-- Sets registers in a row to values, those without a value to nil. -/
def writeMany (frame : Frame) (first : Nat) : Nat → List Raw → Eval Frame
  | 0, _ => return frame
  | count + 1, values => do
    let frame ← frame.write first (values.headD .nil)
    writeMany frame (first + 1) count values.tail

/-- A count of values from a register on; without a count, up to the last one there is. -/
def valuesFrom (frame : Frame) (first : Nat) : Option Nat → Eval (List Raw)
  | some count => frame.readMany first count
  | none => return (← frame.readMany first (frame.openAt - first)) ++ frame.openValues

/-- Puts a count of values into registers, or any number of them behind the registers. -/
def hold (frame : Frame) (first : Nat) (values : List Raw) : Option Nat → Eval Frame
  | some count => frame.writeMany first count values
  | none => return { frame with openAt := first, openValues := values }

def source (frame : Frame) : Source → Eval Raw
  | .register register => frame.read register
  | .constant value => return value

def operand (frame : Frame) (source : Source) : Eval Site.Operand := do
  return ⟨← frame.source source, source.subject⟩

def upvalue (frame : Frame) (index : Nat) : CellRef := frame.upvalues[index]?.getD ⟨0⟩

/-- Lets functions inside share the variable in a register. -/
def share (frame : Frame) (register : Nat) : Eval (CellRef × Frame) := do
  match frame.registers[register]? with
  | some (.shared cell) => return (cell, frame)
  | _ =>
    let cell ← Eval.ask (.newCell (← frame.read register))
    return (cell, { frame with registers := frame.registers.setIfInBounds register (.shared cell) })

/-- The variables that a function inside uses. -/
def capture (frame : Frame) : List UpvalueSource → Array CellRef → Eval (Array CellRef × Frame)
  | [], cells => return (cells, frame)
  | found :: rest, cells => do
    if found.isRegister then
      let (cell, frame) ← frame.share found.index
      capture frame rest (cells.push cell)
    else capture frame rest (cells.push (frame.upvalue found.index))

/-- Ends the sharing of registers from one on. -/
def detach (frame : Frame) (first : Nat) : Frame :=
  { frame with
    registers := frame.registers.mapIdx fun index slot =>
      match slot with
      | .shared _ => if first ≤ index then .value .nil else slot
      | slot => slot }

/-- Takes the results of the call that the function waits for. -/
def receive (frame : Frame) (values : List Raw) : Eval Frame := do
  match frame.instruction with
  | .call register _ results => return (← frame.hold register values results).next
  | _ => return frame.next

end Frame

namespace Machine

/-! ### The end of variables -/

/-- Tells a value that its variable ends. -/
def tell (site : Site) (value raised : Raw) : Eval Unit := do
  let handler ← Site.metavalue value "__close"
  let _ ← site.call handler [value, raised]

/-- Tells the values in some registers that their variables end. -/
def tellAll (machine : Machine) : List Nat → Eval Unit
  | [] => return
  | register :: rest => do
    tell machine.here (← machine.frame.read register) .nil
    tellAll machine rest

/-- Lets the value in a register be told when its variable ends. -/
def closeLater (machine : Machine) (register : Nat) : Eval Frame := do
  let frame := machine.frame
  let value ← frame.read register
  if !value.isTrue then return frame
  else if (← Site.metavalue value "__close").isNil then
    let name := (frame.function.variableName? frame.place register).getD "?"
    machine.here.fail ("variable '" ++ name ++ "' got a non-closable value")
  else return { frame with closing := register :: frame.closing }

/-- Ends the variables in the registers from one on. -/
def close (machine : Machine) (first : Nat) : Eval Frame := do
  let (ending, others) := machine.frame.closing.partition (first ≤ ·)
  machine.tellAll ending
  return { machine.frame.detach first with closing := others }

/-- What is raised in place of `raised` once all values that wait for the end of their variables
were told. -/
def unwind (machine : Machine) (raised : Raw) : Eval Raw :=
  let frames := (machine.frame :: machine.below).filter fun frame => !frame.closing.isEmpty
  let pending := frames.flatMap fun frame => frame.closing.map fun register => (frame, register)
  let tellNext (raised : Raw) (waiting : Frame × Nat) : Eval Raw := do
    let value ← waiting.1.read waiting.2
    let handler ← Site.metavalue value "__close"
    match ← Eval.attempt (.call handler [value, raised] machine.site.nested) with
    | .ok _ => return raised
    | .error raised => return raised
  pending.foldlM tellNext raised

/-! ### Calls -/

/-- The next step with another state of the innermost function. -/
def proceed (machine : Machine) (frame : Frame) : Step :=
  .again (.execute (machine.withFrame frame))

def start (closure : Closure) (arguments : List Raw) (site : Site) : Eval Machine := do
  site.claim (site.height + 1 + arguments.length + closure.function.size)
  return ⟨.start closure arguments site, [], site⟩

/-- Ends the innermost function with its results. -/
def deliver (machine : Machine) (values : List Raw) : Eval Step := do
  match machine.below with
  | [] => return .finish (.ok values)
  | waiting :: below =>
    return .again (.execute ⟨← waiting.receive values, below, machine.site⟩)

def call (machine : Machine) (register : Nat) (arguments : Option Nat) : Eval Step := do
  let frame := machine.frame
  let site := machine.callSite register
  let (function, values) ← site.resolve Site.maxChain (← frame.read register)
    (← frame.valuesFrom (register + 1) arguments)
  match ← Eval.ask (.closure? function) with
  | some closure =>
    site.claim (site.height + 1 + values.length + closure.function.size)
    return .again (.execute ⟨.start closure values site, frame :: machine.below, machine.site⟩)
  | none =>
    let results ← Eval.perform (.call (.function function) values site)
    return machine.proceed (← frame.receive results)

/-- Calls the function in a register in place of the innermost function. -/
def tailCall (machine : Machine) (register : Nat) (arguments : Option Nat) : Eval Step := do
  let frame := machine.frame
  let site := machine.callSite register
  let (function, values) ← site.resolve Site.maxChain (← frame.read register)
    (← frame.valuesFrom (register + 1) arguments)
  match ← Eval.ask (.closure? function) with
  | some closure =>
    site.claim (site.height + 1 + values.length + closure.function.size)
    let caller := { site with spots := frame.spots, height := frame.height }
    return machine.proceed (.start closure values caller)
  | none => machine.deliver (← Eval.perform (.call (.function function) values site))

/-! ### Instructions -/

/-- Runs one instruction. -/
def step (machine : Machine) : Eval Step := do
  let frame := machine.frame
  let site := machine.here
  let put (target : Nat) (value : Raw) : Eval Step := do
    return machine.proceed (← frame.write target value).next
  let jumpIf (expected : Bool) (frame : Frame) (outcome : Bool) : Step :=
    machine.proceed (frame.goTo (frame.place + if outcome == expected then 1 else 2))
  match frame.instruction with
  | .move target source => put target (← frame.read source)
  | .load target value => put target value
  | .loadFalse target =>
    return machine.proceed (← frame.write target (.boolean false)).next.next
  | .loadNil first last =>
    return machine.proceed (← frame.writeMany first (last + 1 - first) []).next
  | .getUpvalue target index => put target (← Eval.ask (.cell (frame.upvalue index)))
  | .setUpvalue source index =>
    Eval.ask (.setCell (frame.upvalue index) (← frame.read source))
    return machine.proceed frame.next
  | .getGlobal target upvalue key =>
    let table ← Eval.ask (.cell (frame.upvalue upvalue))
    put target (← site.index table (.string key) (.upvalue upvalue))
  | .get target object key =>
    put target (← site.index (← frame.read object) (← frame.read key) (.register object))
  | .getInteger target object key =>
    put target (← site.index (← frame.read object) (Arrangement.itemKey key) (.register object))
  | .getField target object key =>
    put target (← site.index (← frame.read object) (.string key) (.register object))
  | .setGlobal upvalue key value =>
    let table ← Eval.ask (.cell (frame.upvalue upvalue))
    site.assign table (.string key) (← frame.source value) (.upvalue upvalue)
    return machine.proceed frame.next
  | .set object key value =>
    site.assign (← frame.read object) (← frame.read key) (← frame.source value) (.register object)
    return machine.proceed frame.next
  | .setInteger object key value =>
    site.assign (← frame.read object) (Arrangement.itemKey key) (← frame.source value)
      (.register object)
    return machine.proceed frame.next
  | .setField object key value =>
    site.assign (← frame.read object) (.string key) (← frame.source value) (.register object)
    return machine.proceed frame.next
  | .newTable target items fields =>
    put target (.table (← Eval.ask (.newTable items fields)))
  | .method target object key =>
    let value ← frame.read object
    let function ← site.index value (← frame.source key) (.register object)
    let frame ← frame.write (target + 1) value
    return machine.proceed (← frame.write target function).next
  | .arithmetic operator target left right isFlipped =>
    let left ← frame.operand (.register left)
    let right ← frame.operand right
    let (left, right) := if isFlipped then (right, left) else (left, right)
    put target (← site.arithmetic operator left right)
  | .unary operator target source =>
    put target (← site.unary operator (← frame.operand (.register source)))
  | .concatenate first count =>
    let last ← frame.operand (.register (first + count - 1))
    let joined ← (List.range' first (count - 1)).reverse.foldlM (fun right register => do
      let left ← frame.operand (.register register)
      return Site.Operand.mk (← site.concatenate left right) (.register register)) last
    put first joined.value
  | .close first => return machine.proceed (← machine.close first).next
  | .closeLater register => return machine.proceed (← machine.closeLater register).next
  | .jump destination => return machine.proceed (frame.goTo destination)
  | .equal left right expected =>
    let left ← frame.read left
    match right with
    | .constant value => return jumpIf expected frame (left.equals value)
    | .register register =>
      return jumpIf expected frame (← site.equals left (← frame.read register))
  | .order operator left right expected =>
    return jumpIf expected frame
      (← site.compare operator (← frame.source left) (← frame.source right))
  | .test source expected => return jumpIf expected frame (← frame.read source).isTrue
  | .testSet target source expected =>
    let value ← frame.read source
    let frame ← match target with
      | some target => if value.isTrue == expected then frame.write target value else pure frame
      | none => pure frame
    return jumpIf expected frame value.isTrue
  | .call function arguments _ => machine.call function arguments
  | .tailCall function arguments => machine.tailCall function arguments
  | .leave first count =>
    let values ← frame.valuesFrom first count
    machine.tellAll frame.closing
    machine.deliver values
  | .prepareCount base destination =>
    let first ← frame.read base
    let limit ← frame.read (base + 1)
    let step ← frame.read (base + 2)
    match ← Counting.start? site first limit step with
    | none => return machine.proceed (frame.goTo destination)
    | some ⟨current, limit, step⟩ =>
      return machine.proceed (← frame.writeMany base 4 [current, limit, step, current]).next
  | .repeatCount base destination =>
    let counting : Counting :=
      ⟨← frame.read base, ← frame.read (base + 1), ← frame.read (base + 2)⟩
    match counting.next? with
    | none => return machine.proceed frame.next
    | some ⟨current, limit, step⟩ =>
      let frame ← frame.writeMany base 4 [current, limit, step, current]
      return machine.proceed (frame.goTo destination)
  | .prepareEach base destination =>
    return machine.proceed ((← machine.closeLater (base + 3)).goTo destination)
  | .callEach base count =>
    let arguments ← frame.readMany (base + 1) 2
    let values ← (machine.callSite (base + 4)).call (← frame.read base) arguments
    return machine.proceed (← frame.writeMany (base + 4) count values).next
  | .repeatEach base destination =>
    let control ← frame.read (base + 4)
    if control.isNil then return machine.proceed frame.next
    else
      return machine.proceed ((← frame.write (base + 2) control).goTo destination)
  | .setItems register count stored =>
    let values ← frame.valuesFrom (register + 1) count
    match ← frame.read register with
    | .table table => Eval.ask (.setItems table stored values)
    | _ => pure ()
    return machine.proceed frame.next
  | .closure target index =>
    match frame.function.functions[index]? with
    | none => return machine.proceed frame.next
    | some function =>
      let (upvalues, frame) ← frame.capture function.upvalues.toList #[]
      let made ← Eval.ask (.newClosure ⟨function, upvalues⟩)
      return machine.proceed (← frame.write target (.function made)).next
  | .varargs target count =>
    return machine.proceed (← frame.hold target frame.extra count).next
  | .separateArguments _ =>
    site.claim site.height
    return machine.proceed frame.next

end Machine
end TileScript.Script
