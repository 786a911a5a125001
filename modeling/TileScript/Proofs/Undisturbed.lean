import Mathlib.Data.List.Forall2
import TileScript.Bridge.ApiCall
import TileScript.Proofs.Growth
import TileScript.Proofs.PlainTables

/-! Attempts that look at things and leave the window manager alone. They may fail, but they always end:
they run no script, as long as the tables that they look into have no metatable. -/

namespace TileScript.Bridge
open Script Attempt

variable {runner : Runner} {site : Site} {scene : Scene} {α β ε δ : Type}

namespace Scene

/-- What the host sees of a value of scripts; of an object, a handle that denotes it. -/
inductive Shows (scene : Scene) : Raw → Value → Prop where
  | nil : scene.Shows .nil .nil
  | boolean (value : Bool) : scene.Shows (.boolean value) (.boolean value)
  | integer (value : Integer) : scene.Shows (.integer value) (.number (Integer.toDouble value))
  | number (value : Double) : scene.Shows (.number value) (.number value)
  | string (bytes : ByteArray) : scene.Shows (.string bytes) (.string (Utf8.decode bytes))
  | table {handle : Handle} (table : TableRef) (found : scene.resolve handle = .ok (.table table))
    (object : handle.object = table.index) : scene.Shows (.table table) (.table handle)
  | function {handle : Handle} (function : FunctionRef) (found : scene.resolve handle = .ok (.function function))
    (object : handle.object = function.index) : scene.Shows (.function function) (.function handle)

theorem Grows.shows {before after : Scene} (grows : before.Grows after) {raw : Raw} {value : Value}
    (shown : before.Shows raw value) : after.Shows raw value := by
  cases shown with
  | nil => exact .nil
  | boolean value => exact .boolean value
  | integer value => exact .integer value
  | number value => exact .number value
  | string bytes => exact .string bytes
  | table table found object => exact .table table (grows.resolve found) object
  | function function found object => exact .function function (grows.resolve found) object

theorem Shows.kind {raw : Raw} {value : Value} (shown : scene.Shows raw value) : kindOf raw = .ok value.kind := by
  cases shown <;> rfl

/-- No host takes a value for a command that it has refused before. -/
theorem Shows.refused {later : Scene} {raw : Raw} {value seen : Value} (shown : scene.Shows raw value) {host : Host}
    {fault : Host.CommandFault} (read : host.commandOf value = .error fault) (again : later.Shows raw seen) {command : Command} :
    host.commandOf seen ≠ .ok command := by
  cases shown with
  | function _ _ _ => cases read
  | table _ _ _ =>
    cases again
    exact nofun
  | nil | boolean _ | integer _ | number _ | string _ =>
    cases again
    exact fun accepted => nomatch read.symm.trans accepted

/-- The command that a host understands a value of scripts as. -/
def Means (scene : Scene) (host : Host) (raw : Raw) (command : Command) : Prop :=
  ∃ value, scene.Shows raw value ∧ host.commandOf value = .ok command

theorem Grows.means {before after : Scene} (grows : before.Grows after) {host : Host} {raw : Raw} {command : Command}
    (known : before.Means host raw command) : after.Means host raw command := by
  obtain ⟨value, shown, read⟩ := known
  exact ⟨value, grows.shows shown, read⟩

/-- The same context, later. The window manager was not touched, no registration was lost, and no table got
or lost a metatable. -/
structure Undisturbed (before after : Scene) : Prop where
  manager : after.manager = before.manager
  grows : before.Grows after
  registry : after.interpreter.registry.Valid
  metatables : before.interpreter.heap.KeepsMetatables after.interpreter.heap

namespace Undisturbed

theorem refl (valid : scene.interpreter.registry.Valid) : scene.Undisturbed scene := ⟨rfl, .refl scene, valid, .refl _⟩

theorem trans {first second third : Scene} (early : first.Undisturbed second) (late : second.Undisturbed third) :
    first.Undisturbed third :=
  ⟨late.manager.trans early.manager, early.grows.trans late.grows, late.registry, early.metatables.trans late.metatables⟩

theorem setStack (valid : scene.interpreter.registry.Valid) (values : List Raw) : scene.Undisturbed (scene.setStack values) :=
  ⟨rfl, .setStack scene values, valid, .refl _⟩

theorem setHeap (valid : scene.interpreter.registry.Valid) {heap : Heap}
    (kept : scene.interpreter.heap.KeepsMetatables heap) : scene.Undisturbed (scene.setHeap heap) :=
  ⟨rfl, ⟨rfl, fun _ _ known => known⟩, valid, kept⟩

theorem register (valid : scene.interpreter.registry.Valid) (value : Raw) : scene.Undisturbed (scene.register value) :=
  ⟨rfl, .register valid value, valid.register value, .refl _⟩

end Undisturbed

/-- What is more, no table has got or lost a field. -/
structure Unaltered (before after : Scene) : Prop extends before.Undisturbed after where
  reads : before.interpreter.heap.ReadsAlike after.interpreter.heap

namespace Unaltered

theorem refl (valid : scene.interpreter.registry.Valid) : scene.Unaltered scene := ⟨.refl valid, .refl _⟩

theorem trans {first second third : Scene} (early : first.Unaltered second) (late : second.Unaltered third) :
    first.Unaltered third := ⟨early.toUndisturbed.trans late.toUndisturbed, early.reads.trans late.reads⟩

theorem setStack (valid : scene.interpreter.registry.Valid) (values : List Raw) : scene.Unaltered (scene.setStack values) :=
  ⟨.setStack valid values, .refl _⟩

theorem setHeap (valid : scene.interpreter.registry.Valid) {heap : Heap}
    (kept : scene.interpreter.heap.KeepsMetatables heap) (reads : scene.interpreter.heap.ReadsAlike heap) :
    scene.Unaltered (scene.setHeap heap) := ⟨.setHeap valid kept, reads⟩

theorem register (valid : scene.interpreter.registry.Valid) (value : Raw) : scene.Unaltered (scene.register value) :=
  ⟨.register valid value, .refl _⟩

end Unaltered
end Scene

/-! ### Attempts that end -/

namespace Attempt

/-- An attempt that ends. If it fails, nothing was disturbed. -/
def Yields (attempt : Attempt ε α) (runner : Runner) (site : Site) (scene : Scene) (post : α → Scene → Prop) : Prop :=
  ∃ result after, attempt.exec runner site scene = some (result, after) ∧
    match result with
    | .ok value => post value after
    | .error _ => scene.Undisturbed after

variable {attempt : Attempt ε α} {next : α → Attempt ε β} {middle : α → Scene → Prop} {post : β → Scene → Prop}

theorem Yields.weaken {first second : α → Scene → Prop} (yields : attempt.Yields runner site scene first)
    (implies : ∀ value after, first value after → second value after) : attempt.Yields runner site scene second := by
  obtain ⟨result, after, ran, known⟩ := yields
  refine ⟨result, after, ran, ?_⟩
  cases result with
  | ok value => exact implies value after known
  | error error => exact known

/-- An attempt that ends and alters nothing, whether it fails or not. -/
def Finds (attempt : Attempt ε α) (runner : Runner) (site : Site) (scene : Scene) (post : Except ε α → Scene → Prop) : Prop :=
  ∃ result after, attempt.exec runner site scene = some (result, after) ∧ scene.Unaltered after ∧ post result after

theorem finds_settle (valid : scene.interpreter.registry.Valid) {result : Except ε α} {post : Except ε α → Scene → Prop}
    (known : post result scene) : (settle result : Attempt ε α).Finds runner site scene post :=
  ⟨result, scene, exec_settle result, .refl valid, known⟩

theorem Finds.weaken {first second : Except ε α → Scene → Prop} (finds : attempt.Finds runner site scene first)
    (implies : ∀ result after, first result after → second result after) : attempt.Finds runner site scene second := by
  obtain ⟨result, after, ran, same, known⟩ := finds
  exact ⟨result, after, ran, same, implies result after known⟩

theorem Finds.bind {first : Except ε α → Scene → Prop} {post : Except ε β → Scene → Prop}
    (finds : attempt.Finds runner site scene first)
    (onward : ∀ value between, scene.Unaltered between → first (.ok value) between → (next value).Finds runner site between post)
    (failed : ∀ error between, first (.error error) between → post (.error error) between) :
    (attempt >>= next).Finds runner site scene post := by
  obtain ⟨result, between, early, same, known⟩ := finds
  cases result with
  | error error => exact ⟨.error error, between, exec_bind_error early next, same, failed error between known⟩
  | ok value =>
    obtain ⟨last, after, late, still, reached⟩ := onward value between same known
    exact ⟨last, after, (exec_bind_ok early next).trans late, same.trans still, reached⟩

theorem Finds.observe {attempt : Attempt δ α} {first : Except δ α → Scene → Prop} (finds : attempt.Finds runner site scene first) :
    (Attempt.observe attempt : Attempt ε (Except δ α)).Finds runner site scene fun result after =>
      ∃ observed, result = .ok observed ∧ first observed after := by
  obtain ⟨result, after, ran, same, known⟩ := finds
  exact ⟨.ok result, after, by rw [exec_observe, ran]; rfl, same, result, rfl, known⟩

theorem Finds.mapError {attempt : Attempt δ α} {first : Except δ α → Scene → Prop} {post : Except ε α → Scene → Prop}
    (finds : attempt.Finds runner site scene first) (change : δ → ε)
    (implies : ∀ result after, first result after → post (result.mapError change) after) :
    (attempt.mapError change).Finds runner site scene post := by
  obtain ⟨result, after, ran, same, known⟩ := finds
  exact ⟨result.mapError change, after, by rw [exec_mapError, ran]; rfl, same, implies result after known⟩

/-- An attempt that ends and alters nothing. If it does not fail, what it gives back is known. -/
def Sees (attempt : Attempt ε α) (runner : Runner) (site : Site) (scene : Scene) (post : α → Scene → Prop) : Prop :=
  attempt.Finds runner site scene fun result after => ∀ value, result = .ok value → post value after

theorem Finds.sees {first : Except ε α → Scene → Prop} (finds : attempt.Finds runner site scene first)
    (implies : ∀ value after, first (.ok value) after → middle value after) : attempt.Sees runner site scene middle := by
  refine finds.weaken fun result after known => ?_
  rintro value rfl
  exact implies value after known

theorem Sees.weaken {first second : α → Scene → Prop} (sees : attempt.Sees runner site scene first)
    (implies : ∀ value after, first value after → second value after) : attempt.Sees runner site scene second :=
  Finds.sees sees fun value after known => implies value after (known value rfl)

theorem sees_pure (valid : scene.interpreter.registry.Valid) {value : α} {post : α → Scene → Prop}
    (known : post value scene) : (pure value : Attempt ε α).Sees runner site scene post :=
  finds_settle valid (by rintro _ ⟨⟩; exact known)

theorem sees_throw (valid : scene.interpreter.registry.Valid) (error : ε) {post : α → Scene → Prop} :
    (throw error : Attempt ε α).Sees runner site scene post := finds_settle valid nofun

theorem Sees.bind (first : attempt.Sees runner site scene middle)
    (second : ∀ value between, scene.Unaltered between → middle value between → (next value).Sees runner site between post) :
    (attempt >>= next).Sees runner site scene post :=
  Finds.bind first (fun value between same known => second value between same (known value rfl)) fun _ _ _ => nofun

/-- What comes after an attempt that alters nothing decides what is yielded. -/
theorem Sees.yields (first : attempt.Sees runner site scene middle)
    (second : ∀ value between, scene.Unaltered between → middle value between → (next value).Yields runner site between post) :
    (attempt >>= next).Yields runner site scene post := by
  obtain ⟨result, between, early, same, known⟩ := first
  cases result with
  | error error =>
    exact ⟨.error error, between, exec_bind_error early next, same.toUndisturbed⟩
  | ok value =>
    obtain ⟨last, after, late, reached⟩ := second value between same (known value rfl)
    refine ⟨last, after, (exec_bind_ok early next).trans late, ?_⟩
    cases last with
    | ok value => exact reached
    | error error => exact same.toUndisturbed.trans reached

theorem Sees.observe {attempt : Attempt δ α} (sees : attempt.Sees runner site scene middle) :
    (Attempt.observe attempt : Attempt ε (Except δ α)).Sees runner site scene fun observed after =>
      ∀ value, observed = .ok value → middle value after := by
  refine (Finds.observe sees).sees fun observed after known => ?_
  obtain ⟨_, ⟨⟩, known⟩ := known
  exact known

theorem Sees.mapError {attempt : Attempt δ α} (sees : attempt.Sees runner site scene middle) (change : δ → ε) :
    (attempt.mapError change).Sees runner site scene middle := by
  refine Finds.mapError sees change fun result after known value same => ?_
  cases result with
  | ok _ =>
    cases same
    exact known value rfl
  | error _ => cases same

theorem finds_host (valid : scene.interpreter.registry.Valid) :
    (ask .host : Attempt ε Host).Finds runner site scene fun result _ => result = .ok scene.manager.host :=
  ⟨_, scene, exec_ask .host, .refl valid, rfl⟩

theorem sees_host (valid : scene.interpreter.registry.Valid) :
    (ask .host : Attempt ε Host).Sees runner site scene fun host _ => host = scene.manager.host :=
  (finds_host valid).sees fun _ _ => Except.ok.inj

end Attempt

/-! ### Values -/

namespace Act

theorem finds_pin (valid : scene.interpreter.registry.Valid) (value : Raw) (object : Nat) :
    (pin value object).Finds runner site scene fun result after =>
      ∃ handle, result = .ok handle ∧ after.resolve handle = .ok value ∧ handle.object = object :=
  ⟨_, _, exec_pin value object, .register valid value, _, rfl, Scene.resolve_register valid value object, rfl⟩

/-- The host gets to see a value, or the value is of a kind that it does not know. -/
theorem finds_ofRaw (valid : scene.interpreter.registry.Valid) (raw : Raw) :
    (ofRaw raw).Finds runner site scene fun result after =>
      match result with
      | .ok value => after.Shows raw value
      | .error _ => ∃ foreign, kindOf raw = .error foreign := by
  cases raw with
  | nil => exact finds_settle valid .nil
  | boolean value => exact finds_settle valid (.boolean value)
  | integer value => exact finds_settle valid (.integer value)
  | number value => exact finds_settle valid (.number value)
  | string bytes => exact finds_settle valid (.string bytes)
  | table table =>
    refine (finds_pin valid (.table table) table.index).bind (fun handle between same known => ?_) (by simp)
    obtain ⟨_, ⟨⟩, found, object⟩ := known
    exact finds_settle same.registry (.table table found object)
  | function function =>
    refine (finds_pin valid (.function function) function.index).bind (fun handle between same known => ?_) (by simp)
    obtain ⟨_, ⟨⟩, found, object⟩ := known
    exact finds_settle same.registry (.function function found object)
  | thread _ | file | failure _ _ => exact finds_settle valid ⟨_, rfl⟩

theorem sees_ofRaw (valid : scene.interpreter.registry.Valid) (raw : Raw) :
    (ofRaw raw).Sees runner site scene fun value after => after.Shows raw value :=
  (finds_ofRaw valid raw).sees fun _ _ shown => shown

theorem finds_kind (valid : scene.interpreter.registry.Valid) (raw : Raw) :
    (kind raw).Finds runner site scene fun result _ => result = (kindOf raw).mapError Error.unsupported :=
  finds_settle valid rfl

/-- Only a value whose kind the host knows has one. -/
theorem kind_of_mapped {raw : Raw} {kind : Kind} (known : .ok kind = (kindOf raw).mapError Error.unsupported) :
    kindOf raw = .ok kind := by
  cases found : kindOf raw with
  | ok other =>
    rw [found] at known
    cases known
    rfl
  | error foreign =>
    rw [found] at known
    cases known

theorem sees_kind (valid : scene.interpreter.registry.Valid) (raw : Raw) :
    (kind raw).Sees runner site scene fun found _ => kindOf raw = .ok found :=
  (finds_kind valid raw).sees fun _ _ known => kind_of_mapped known

end Act

namespace Arguments

variable {arguments : Arguments}

theorem exec_raw {place : Nat} {raw : Raw} (given : arguments[place]? = some raw) :
    exec runner (arguments.raw (place + 1 : Nat)) site scene = some (.ok raw, scene) := by
  have found : (((place + 1 : Nat) : Int).toNat - 1 : Nat) = place := by omega
  rw [Arguments.raw, if_pos (by omega), Option.bind_some, found, given]
  rfl

theorem sees_value (valid : scene.interpreter.registry.Valid) {place : Nat} {raw : Raw}
    (given : arguments[place]? = some raw) :
    (arguments.value (place + 1 : Nat)).Sees runner site scene fun value after => after.Shows raw value := by
  obtain ⟨result, after, ran, known⟩ : (Act.ofRaw raw).Sees runner site scene _ := Act.sees_ofRaw valid raw
  exact ⟨result, after, (exec_bind_ok (exec_raw given) _).trans ran, known⟩

/-- All arguments are commands, or one of them is none, whenever it is looked at. -/
theorem finds_commands (valid : scene.interpreter.registry.Valid) (arguments : Arguments) :
    arguments.commands.Finds runner site scene fun result after =>
      match result with
      | .ok commands => List.Forall₂ (after.Means scene.manager.host) arguments commands
      | .error _ => ∀ (later : Scene) commands, ¬ List.Forall₂ (later.Means scene.manager.host) arguments commands := by
  induction arguments generalizing scene with
  | nil => exact finds_settle valid .nil
  | cons raw rest ih =>
    refine (Act.finds_ofRaw valid raw).bind (fun value between same shown => ?_) fun _ between unknown later commands meant => ?_
    · refine (finds_host same.registry).bind (fun host asked still known => ?_) (by simp)
      have known : host = scene.manager.host := (Except.ok.inj known).trans (congrArg Manager.host same.manager)
      subst known
      cases read : scene.manager.host.commandOf value with
      | error fault =>
        refine finds_settle still.registry fun later commands meant => ?_
        cases meant with
        | cons first _ =>
          obtain ⟨seen, again, accepted⟩ := first
          exact shown.refused read again accepted
      | ok command =>
        have manager : asked.manager.host = scene.manager.host :=
          congrArg Manager.host (still.manager.trans same.manager)
        have others := ih still.registry
        rw [manager] at others
        refine others.bind (fun commands after later others => ?_) fun _ after refused later commands meant => ?_
        · have first : after.Means scene.manager.host raw command :=
            later.grows.means ⟨value, still.grows.shows shown, read⟩
          exact finds_settle later.registry (.cons first others)
        · cases meant with
          | cons _ others => exact refused later _ others
    · obtain ⟨foreign, unknown⟩ := unknown
      cases meant with
      | cons first _ =>
        obtain ⟨seen, again, -⟩ := first
        cases unknown.symm.trans again.kind

theorem sees_commands (valid : scene.interpreter.registry.Valid) (arguments : Arguments) :
    arguments.commands.Sees runner site scene fun commands after =>
      List.Forall₂ (after.Means scene.manager.host) arguments commands :=
  (finds_commands valid arguments).sees fun _ _ read => read

end Arguments

/-! ### Tables without a metatable -/

/-- A handle denotes a table without a metatable. -/
structure Scene.IsBare (scene : Scene) (handle : Handle) (table : TableRef) : Prop where
  found : scene.resolve handle = .ok (.table table)
  bare : (scene.interpreter.heap.table table).metatable = none

theorem Scene.Undisturbed.isBare {before after : Scene} (calm : before.Undisturbed after) {handle : Handle} {table : TableRef}
    (known : before.IsBare handle table) : after.IsBare handle table :=
  ⟨calm.grows.resolve known.found, (calm.metatables.same table).trans known.bare⟩

/-- To set a field of such a table is a matter of the heap alone. -/
theorem Act.exec_assign (runner : Runner) (site : Site) (valid : scene.interpreter.registry.Valid) {table : TableRef}
    (bare : (scene.interpreter.heap.table table).metatable = none) (name : String) (value : Raw) :
    ∃ after, scene.Undisturbed after ∧ scene.interpreter.heap.Stores after.interpreter.heap table name value ∧
      exec runner (Act.use fun site => site.assign (.table table) (.ofString name) value .other) site scene =
        some (.ok (), after) := by
  obtain ⟨heap, kept, stored, assigned⟩ := evaluation_assign runner ((described site).nested.enter 0) bare name value .other
  refine ⟨_, .setHeap valid kept, stored, ?_⟩
  rw [Act.use, exec_bind, exec_evaluate, show interpret runner (ofEval _) scene = _ from assigned]
  rfl

namespace Table

variable {handle : Handle} {table : TableRef}

/-- A field is looked up in the heap alone, and comes to lie on top. -/
theorem exec_fetchField (runner : Runner) (site : Site) (known : scene.IsBare handle table) (name : String) :
    ∃ heap, scene.interpreter.heap.KeepsMetatables heap ∧ scene.interpreter.heap.ReadsAlike heap ∧
      ∀ {α : Type} (act : Act α), exec runner (do Stack.push (.table handle); Stack.getField (-1) name; act) site scene =
        exec runner act site ((scene.setHeap heap).setStack
          ((scene.interpreter.heap.table table).get (.ofString name) :: .table table :: scene.stack)) := by
  let below := scene.setStack (.table table :: scene.stack)
  have pushed : exec runner (Stack.push (.table handle)) site scene = some (.ok (), below) := by
    rw [Stack.exec_push, show scene.rawOf (.table handle) = _ from known.found]
  have found : exec runner (Stack.tableAt (-1)) site below = some (.ok table, below) :=
    Stack.exec_tableAt (show below.stack[0]? = some (.table table) from rfl)
  have bare : (below.interpreter.heap.table table).metatable = none := known.bare
  obtain ⟨heap, kept, alike, read⟩ :=
    evaluation_index runner ((described site).nested.enter 0) bare (.ofString name) .other
  have used : exec runner (Act.use fun site => site.index (.table table) (.ofString name) .other) site below =
      some (.ok ((below.interpreter.heap.table table).get (.ofString name)), below.setHeap heap) := by
    rw [Act.use, exec_bind, exec_evaluate, show interpret runner (ofEval _) below = _ from read]
    rfl
  have fetched : exec runner (Stack.getField (-1) name) site below =
      some (.ok (), (below.setHeap heap).setStack
        ((below.interpreter.heap.table table).get (.ofString name) :: below.stack)) := by
    rw [Stack.getField, exec_bind_ok found, exec_bind_ok used]
    rfl
  exact ⟨heap, kept, alike, fun act => (exec_bind_ok pushed _).trans (exec_bind_ok fetched _)⟩

/-- So nothing is altered by it. -/
theorem exec_stageField (runner : Runner) (site : Site) (valid : scene.interpreter.registry.Valid) (known : scene.IsBare handle table) (name : String) :
    ∃ after, scene.Unaltered after ∧
      after.stack = (scene.interpreter.heap.table table).get (.ofString name) :: .table table :: scene.stack ∧
      ∀ {α : Type} (act : Act α), exec runner (do Stack.push (.table handle); Stack.getField (-1) name; act) site scene =
        exec runner act site after := by
  obtain ⟨heap, kept, alike, fetched⟩ := exec_fetchField runner site known name
  have read : scene.Unaltered (scene.setHeap heap) := .setHeap valid kept alike
  exact ⟨_, read.trans (.setStack read.registry _), rfl, fetched⟩

/-- What is done with a staged field decides what comes of it. -/
theorem finds_staged (valid : scene.interpreter.registry.Valid) (known : scene.IsBare handle table) (name : String)
    {act : Act α} {post : Except Error α → Scene → Prop}
    (stable : ∀ result after values, post result after → post result (after.setStack values))
    (rest : ∀ between, scene.Unaltered between →
      between.stack = (scene.interpreter.heap.table table).get (.ofString name) :: .table table :: scene.stack →
      act.Finds runner site between post) :
    (Stack.framed do Stack.push (.table handle); Stack.getField (-1) name; act).Finds runner site scene post := by
  obtain ⟨between, same, staged, reached⟩ := exec_stageField runner site valid known name
  obtain ⟨result, after, ran, still, found⟩ := rest between same staged
  refine ⟨result, _, by rw [Stack.exec_framed, reached, ran]; rfl, ?_, stable result after _ found⟩
  exact same.trans (still.trans (.setStack still.registry _))

theorem finds_getField (valid : scene.interpreter.registry.Valid) (known : scene.IsBare handle table) (name : String) :
    (Table.getField handle name).Finds runner site scene fun result after =>
      match result with
      | .ok value => after.Shows (scene.interpreter.heap.field table name) value
      | .error _ => ∃ foreign, kindOf (scene.interpreter.heap.field table name) = .error foreign := by
  refine finds_staged valid known name ?_ fun between same staged => ?_
  · intro result after values found
    cases result with
    | ok value => exact (Scene.Grows.setStack after values).shows found
    | error error => exact found
  · let popped := between.setStack (.table table :: scene.stack)
    have dropped : between.Unaltered popped := .setStack same.registry _
    obtain ⟨result, after, ran, still, found⟩ : (Act.ofRaw _).Finds runner site popped _ := Act.finds_ofRaw dropped.registry _
    exact ⟨result, after, (Stack.exec_pop staged).trans ran, dropped.trans still, found⟩

theorem sees_getField (valid : scene.interpreter.registry.Valid) (known : scene.IsBare handle table) (name : String) :
    (Table.getField handle name).Sees runner site scene fun value after =>
      after.Shows (scene.interpreter.heap.field table name) value :=
  (finds_getField valid known name).sees fun _ _ shown => shown

theorem finds_fieldKind (valid : scene.interpreter.registry.Valid) (known : scene.IsBare handle table) (name : String) :
    (Table.fieldKind handle name).Finds runner site scene fun result _ =>
      result = (kindOf (scene.interpreter.heap.field table name)).mapError Error.unsupported := by
  refine finds_staged valid known name (fun _ _ _ found => found) fun between same staged => ?_
  have top : exec runner (Stack.rawAt (-1)) site between = some (.ok _, between) :=
    Stack.exec_rawAt (show between.stack[0]? = some _ by rw [staged]; rfl)
  obtain ⟨result, after, ran, still, found⟩ : (Act.kind _).Finds runner site between _ := Act.finds_kind same.registry _
  refine ⟨result, after, ?_, still, found⟩
  rw [Stack.kindAt, exec_bind, top]
  exact ran

theorem sees_fieldKind (valid : scene.interpreter.registry.Valid) (known : scene.IsBare handle table) (name : String) :
    (Table.fieldKind handle name).Sees runner site scene fun found _ =>
      kindOf (scene.interpreter.heap.field table name) = .ok found :=
  (finds_fieldKind valid known name).sees fun _ _ found => Act.kind_of_mapped found

theorem exec_setField (runner : Runner) (site : Site) (valid : scene.interpreter.registry.Valid) (known : scene.IsBare handle table) (name : String)
    {value : Value} {raw : Raw} (given : scene.rawOf value = .ok raw) :
    ∃ after, scene.Undisturbed after ∧ scene.interpreter.heap.Stores after.interpreter.heap table name raw ∧
      exec runner (Table.setField handle name value) site scene = some (.ok (), after) := by
  let below := scene.setStack (.table table :: scene.stack)
  let staged := scene.setStack (raw :: .table table :: scene.stack)
  have first : exec runner (Stack.push (.table handle)) site scene = some (.ok (), below) := by
    rw [Stack.exec_push, show scene.rawOf (.table handle) = _ from known.found]
  have second : exec runner (Stack.push value) site below = some (.ok (), staged) := by
    rw [Stack.exec_push, show below.rawOf value = _ from given]
    rfl
  have third : exec runner (Stack.tableAt (-2)) site staged = some (.ok table, staged) :=
    Stack.exec_tableAt (show staged.stack[1]? = some (.table table) from rfl)
  have pushed : scene.Undisturbed below := .setStack valid _
  obtain ⟨after, calm, stored, assigned⟩ := Act.exec_assign runner site pushed.registry (pushed.isBare known).bare name raw
  have staging : exec runner (do Stack.push (.table handle); Stack.push value; Stack.setField (-2) name) site scene =
      some (.ok (), after) := by
    rw [exec_bind_ok first, exec_bind_ok second, Stack.setField, exec_bind_ok third, exec_bind_ok (Stack.exec_popRaw rfl)]
    exact assigned
  refine ⟨_, ?_, ?_, by rw [Table.setField, Stack.exec_framed, staging]; rfl⟩
  · exact pushed.trans (calm.trans (.setStack calm.registry _))
  · exact stored

/-- Fields of different names are all there once they are set. -/
theorem exec_setFields (runner : Runner) (site : Site) (valid : scene.interpreter.registry.Valid) (known : scene.IsBare handle table)
    (fields : List (String × Value)) (given : ∀ field ∈ fields, Value.handle? field.2 = none) :
    ∃ after, scene.Undisturbed after ∧ exec runner (Table.setFields handle fields) site scene = some (.ok (), after) ∧
      (table.index < scene.interpreter.heap.tables.size → (fields.map (·.1)).Nodup →
        (∀ field ∈ fields, after.rawOf field.2 = .ok ((after.interpreter.heap.table table).get (.ofString field.1))) ∧
        ∀ name ∉ fields.map (·.1), (after.interpreter.heap.table table).get (.ofString name) =
          (scene.interpreter.heap.table table).get (.ofString name)) := by
  induction fields generalizing scene with
  | nil => exact ⟨scene, .refl valid, rfl, fun _ _ => ⟨by simp, fun _ _ => rfl⟩⟩
  | cons field rest ih =>
    obtain ⟨name, value⟩ := field
    have plain : ∃ raw, ∀ scene : Scene, scene.rawOf value = .ok raw := by
      have scalar := given (name, value) (List.mem_cons_self ..)
      cases value with
      | table _ | function _ => cases scalar
      | number _ | string _ | boolean _ | nil => exact ⟨_, fun _ => rfl⟩
    obtain ⟨raw, plain⟩ := plain
    obtain ⟨between, calm, stored, set⟩ := exec_setField runner site valid known name (plain scene)
    obtain ⟨after, later, others, filled⟩ := ih calm.registry (calm.isBare known)
      fun field member => given field (List.mem_cons_of_mem _ member)
    refine ⟨after, calm.trans later, by rw [Table.setFields, exec_bind, set]; exact others, fun inside distinct => ?_⟩
    obtain ⟨new, distinct⟩ := List.nodup_cons.mp distinct
    obtain ⟨there, unchanged⟩ := filled (stored.size ▸ inside) distinct
    have read := stored.get inside table
    refine ⟨List.forall_mem_cons.mpr ⟨?_, there⟩, fun other absent => ?_⟩
    · rw [unchanged name new, read, if_pos ⟨rfl, rfl⟩]
      exact plain after
    · obtain ⟨apart, absent⟩ := not_or.mp (List.mem_cons.not.mp absent)
      have different : Raw.ofString other ≠ .ofString name := fun same => apart (Raw.ofString_injective same)
      rw [unchanged other absent, read, if_neg (different ·.2)]

/-- A table can always be made, and has no metatable. -/
theorem exec_create_bare (runner : Runner) (site : Site) (valid : scene.interpreter.registry.Valid) :
    ∃ handle table after, scene.Undisturbed after ∧ after.IsBare handle table ∧
      handle.object = table.index ∧ table.index < after.interpreter.heap.tables.size ∧
      exec runner Table.create site scene = some (.ok handle, after) := by
  let table : TableRef := ⟨scene.interpreter.heap.tables.size⟩
  let made := scene.setHeap (scene.interpreter.heap.newTable (.empty 0 0)).2
  have grown : scene.Undisturbed made := .setHeap valid (Heap.keepsMetatables_newTable 0 0)
  have new : made.interpreter.heap.table table = .empty 0 0 := by
    change ((scene.interpreter.heap.tables.push _)[scene.interpreter.heap.tables.size]?).getD _ = _
    rw [Array.getElem?_push_size, Option.getD_some]
  have inside : table.index < made.interpreter.heap.tables.size := by
    change scene.interpreter.heap.tables.size < (scene.interpreter.heap.tables.push _).size
    rw [Array.size_push]
    exact Nat.lt_succ_self _
  refine ⟨_, table, made.register (.table table), grown.trans (.register grown.registry _), ⟨?_, ?_⟩, rfl, inside, Table.exec_create⟩
  · exact Scene.resolve_register grown.registry _ _
  · exact congrArg TableObject.metatable new

end Table
end TileScript.Bridge
