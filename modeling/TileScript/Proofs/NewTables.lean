import Mathlib.Data.List.Nodup
import TileScript.Proofs.Undisturbed

/-! Tables that the host makes of named values. What is done to them is said exactly: the heap has one more table,
with just these entries and no metatable, and everything else in the context is as it was. -/

namespace TileScript.Script

/-! ### What a table holds -/

namespace TableObject

/-- The table when a value has been set at a key; what was there was looked up first. -/
def assign (object : TableObject) (key value : Raw) : TableObject :=
  (if object.isSettled then object else object.touch key).set key value

variable {object : TableObject}

theorem metatable_assign (key value : Raw) : (object.assign key value).metatable = object.metatable := by
  rw [assign]
  split <;> rfl

theorem contents_assign (key value : Raw) : (object.assign key value).contents = object.contents.set key.toKey value := by
  rw [assign]
  split <;> rfl

/-- The table with some values set under their names, one after the other. -/
def assignAll (fields : List (String × Raw)) (object : TableObject) : TableObject :=
  fields.foldl (fun object field => object.assign (.ofString field.1) field.2) object

theorem metatable_assignAll (fields : List (String × Raw)) (object : TableObject) :
    (object.assignAll fields).metatable = object.metatable := by
  induction fields generalizing object with
  | nil => rfl
  | cons field rest ih => exact (ih _).trans (metatable_assign ..)

end TableObject

/-- The entries that come of named values; nil is none. -/
def entriesOf (fields : List (String × Raw)) : List (Raw × Raw) :=
  (fields.map fun field => (Raw.ofString field.1, field.2)).filter fun entry => !entry.2.isNil

theorem entriesOf_cons (name : String) (value : Raw) (rest : List (String × Raw)) :
    entriesOf ((name, value) :: rest) = if value.isNil then entriesOf rest else (.ofString name, value) :: entriesOf rest := by
  rw [entriesOf, List.map_cons, List.filter_cons]
  cases value.isNil <;> rfl

theorem mem_entriesOf {fields : List (String × Raw)} {entry : Raw × Raw} (member : entry ∈ entriesOf fields) :
    ∃ field ∈ fields, entry = (.ofString field.1, field.2) := by
  obtain ⟨field, listed, rfl⟩ := List.mem_map.mp (List.mem_of_mem_filter member)
  exact ⟨field, listed, rfl⟩

theorem lookup_of_mem {entries : List (Raw × Raw)} (distinct : (entries.map Prod.fst).Nodup) {key value : Raw}
    (member : (key, value) ∈ entries) : entries.lookup key = some value := by
  induction entries with
  | nil => cases member
  | cons entry rest ih =>
    obtain ⟨new, distinct⟩ := List.nodup_cons.mp distinct
    rcases List.mem_cons.mp member with rfl | later
    · exact List.lookup_cons_self
    · have other : (key == entry.1) = false := by
        rw [beq_eq_false_iff_ne]
        rintro rfl
        exact new (List.mem_map.mpr ⟨_, later, rfl⟩)
      rw [List.lookup_cons, other]
      exact ih distinct later

/-- What has no items has everything by its key. -/
theorem Contents.get_few (entries : List (Raw × Raw)) (key : Raw) :
    Contents.get ⟨#[], .few entries⟩ key = (entries.lookup key).getD .nil := by
  have none : Contents.item? ⟨#[], .few entries⟩ key = none := by
    cases key with
    | integer n =>
      rw [Contents.item?, if_neg]
      rw [Bool.and_eq_true, decide_eq_true_eq, decide_eq_true_eq, Array.size_empty]
      omega
    | nil | boolean _ | number _ | string _ | table _ | function _ | thread _ | file | failure _ _ => rfl
  rw [Contents.get, none]
  rfl

/-- A new name comes first among few others, unless there is nothing to set. -/
theorem Contents.set_absent {entries : List (Raw × Raw)} {name : String} (value : Raw)
    (absent : .ofString name ∉ entries.map Prod.fst) (room : entries.length < Fields.fewEnough) :
    Contents.set ⟨#[], .few entries⟩ (.ofString name) value =
      ⟨#[], .few (if value.isNil then entries else (.ofString name, value) :: entries)⟩ := by
  have others : ∀ entry ∈ entries, entry.1 ≠ .ofString name := fun entry member same =>
    absent (same ▸ List.mem_map_of_mem member)
  have put : Fields.put (.ofString name) value entries =
      if value.isNil then entries else (.ofString name, value) :: entries := by
    have unknown : entries.lookup (.ofString name) = none := by
      rw [List.lookup_eq_none_iff]
      exact fun entry member => bne_iff_ne.mpr (others entry member).symm
    rw [Fields.put, unknown, List.filter_eq_self.mpr fun entry member => decide_eq_true (others entry member)]
    rfl
  have short : (if value.isNil then entries else (.ofString name, value) :: entries).length ≤ Fields.fewEnough := by
    split
    · exact Nat.le_of_lt room
    · exact room
  have stored : Fields.set (.few entries) (.ofString name) value =
      .few (if value.isNil then entries else (.ofString name, value) :: entries) := by
    rw [Fields.set, Fields.setAt, put, decide_eq_true short]
    rfl
  rw [Contents.set, show Contents.item? _ (.ofString name) = none from rfl]
  exact congrArg (Contents.mk #[]) stored

theorem TableObject.contents_assignAll {fields : List (String × Raw)} {object : TableObject} {entries : List (Raw × Raw)}
    (few : object.contents = ⟨#[], .few entries⟩) (distinct : (fields.map Prod.fst).Nodup)
    (apart : ∀ field ∈ fields, .ofString field.1 ∉ entries.map Prod.fst)
    (room : fields.length + entries.length ≤ Fields.fewEnough) :
    (object.assignAll fields).contents = ⟨#[], .few ((entriesOf fields).reverse ++ entries)⟩ := by
  induction fields generalizing object entries with
  | nil => exact few
  | cons field rest ih =>
    obtain ⟨name, value⟩ := field
    obtain ⟨new, distinct⟩ := List.nodup_cons.mp distinct
    obtain ⟨absent, apart⟩ := List.forall_mem_cons.mp apart
    rw [List.length_cons] at room
    have first : (object.assign (.ofString name) value).contents = _ := contents_assign (.ofString name) value
    rw [few] at first
    replace first := first.trans (Contents.set_absent value absent (by omega))
    cases nothing : value.isNil with
    | true =>
      rw [nothing] at first
      rw [entriesOf_cons, if_pos nothing]
      exact ih first distinct apart (by omega)
    | false =>
      rw [nothing] at first
      rw [entriesOf_cons, nothing, if_neg Bool.false_ne_true, List.reverse_cons, List.append_assoc]
      refine ih first distinct (fun other listed member => ?_) ?_
      · rcases List.mem_cons.mp member with same | old
        · exact new (List.mem_map.mpr ⟨other, listed, Raw.ofString_injective same⟩)
        · exact apart other listed old
      · change rest.length + (entries.length + 1) ≤ _
        omega

/-- A table has some entries and no others, and no metatable. -/
structure TableObject.Consists (object : TableObject) (entries : List (Raw × Raw)) : Prop where
  bare : object.metatable = none
  present : object.present.Perm entries
  get : ∀ entry ∈ entries, object.get entry.1 = entry.2
  nothing : ∀ key, key.toKey ∉ entries.map Prod.fst → object.get key = .nil

/-- The table that is made of some named values. -/
def TableObject.ofFields (fields : List (String × Raw)) : TableObject := (empty 0 0).assignAll fields

theorem TableObject.ofFields_consists {fields : List (String × Raw)} (distinct : (fields.map Prod.fst).Nodup)
    (room : fields.length ≤ Fields.fewEnough) : (ofFields fields).Consists (entriesOf fields) := by
  have contents : (ofFields fields).contents = ⟨#[], .few (entriesOf fields).reverse⟩ := by
    have filled : ((empty 0 0).assignAll fields).contents = _ := contents_assignAll rfl distinct (by simp) room
    rwa [List.append_nil] at filled
  have keys : ((entriesOf fields).reverse.map Prod.fst).Nodup := by
    rw [List.map_reverse, List.nodup_reverse]
    refine List.Nodup.sublist (List.Sublist.map _ List.filter_sublist) ?_
    have named : (fields.map fun field => (Raw.ofString field.1, field.2)).map Prod.fst = (fields.map Prod.fst).map .ofString := by
      rw [List.map_map, List.map_map]
      rfl
    rw [named]
    exact distinct.map Raw.ofString_injective
  have there : ∀ entry ∈ entriesOf fields, entry.2.isNil = false := fun entry member => by
    simpa using (List.mem_filter.mp member).2
  have read : ∀ key, (ofFields fields).get key = ((entriesOf fields).reverse.lookup key.toKey).getD .nil := by
    intro key
    rw [TableObject.get, contents, Contents.get_few]
  refine ⟨metatable_assignAll fields _, ?_, fun entry member => ?_, fun key absent => ?_⟩
  · have whole : (ofFields fields).present = (entriesOf fields).reverse.filter fun entry => !entry.2.isNil := by
      rw [TableObject.present, Contents.present, contents]
      rfl
    rw [whole, List.filter_eq_self.mpr fun entry member => by simp [there entry (List.mem_reverse.mp member)]]
    exact List.reverse_perm _
  · obtain ⟨field, -, rfl⟩ := mem_entriesOf member
    exact (read _).trans (congrArg (Option.getD · Raw.nil) (lookup_of_mem keys (List.mem_reverse.mpr member)))
  · have unknown : (entriesOf fields).reverse.lookup key.toKey = none := by
      rw [List.lookup_eq_none_iff]
      intro entry member
      rw [bne_iff_ne]
      exact fun same => absent (same ▸ List.mem_map_of_mem (List.mem_reverse.mp member))
    rw [read, unknown]
    rfl

/-! ### What the heap holds -/

namespace Heap

variable {heap : Heap}

theorem modifyTable_congr {place : TableRef} {first second : TableObject → TableObject}
    (same : ∀ object, heap.tables[place.index]? = some object → first object = second object) :
    heap.modifyTable place first = heap.modifyTable place second := by
  have tables : heap.tables.modify place.index first = heap.tables.modify place.index second := by
    refine Array.ext_getElem? fun index => ?_
    rw [Array.getElem?_modify, Array.getElem?_modify]
    split
    · next here =>
      subst here
      cases found : heap.tables[place.index]? with
      | none => rfl
      | some object => exact congrArg some (same object found)
    · rfl
  exact congrArg (fun tables => { heap with tables := tables }) tables

theorem modifyTable_modifyTable (place : TableRef) (first second : TableObject → TableObject) :
    (heap.modifyTable place first).modifyTable place second = heap.modifyTable place (second ∘ first) := by
  have tables : (heap.tables.modify place.index first).modify place.index second =
      heap.tables.modify place.index (second ∘ first) := by
    refine Array.ext_getElem? fun index => ?_
    simp only [Array.getElem?_modify]
    split <;> simp
  exact congrArg (fun tables => { heap with tables := tables }) tables

theorem modifyTable_id (place : TableRef) : heap.modifyTable place (fun object => object) = heap := by
  have tables : heap.tables.modify place.index (fun object => object) = heap.tables := by
    refine Array.ext_getElem? fun index => ?_
    rw [Array.getElem?_modify]
    split <;> simp
  exact congrArg (fun tables => { heap with tables := tables }) tables

theorem modifyTable_newTable (object : TableObject) (change : TableObject → TableObject) :
    (heap.newTable object).2.modifyTable ⟨heap.tables.size⟩ change = (heap.newTable (change object)).2 := by
  have tables : (heap.tables.push object).modify heap.tables.size change = heap.tables.push (change object) := by
    refine Array.ext_getElem? fun index => ?_
    rw [Array.getElem?_modify, Array.getElem?_push, Array.getElem?_push]
    grind
  exact congrArg (fun tables => { heap with tables := tables }) tables

theorem set_get (table : TableRef) (key value : Raw) :
    ((HeapRequest.set table key value).answer ((HeapRequest.get table key).answer heap).2).2 =
      heap.modifyTable table (·.assign key value) := by
  simp only [HeapRequest.answer]
  -- Whether the table is touched is decided by the one that is there.
  split
  · next settled =>
    refine modifyTable_congr fun object found => ?_
    rw [Heap.table, found, Option.getD_some] at settled
    rw [TableObject.assign, if_pos settled]
  · next unsettled =>
    rw [modifyTable_modifyTable]
    refine modifyTable_congr fun object found => ?_
    rw [Heap.table, found, Option.getD_some] at unsettled
    rw [TableObject.assign, if_neg unsettled]
    rfl

end Heap
end TileScript.Script

namespace TileScript.Bridge
open Script Attempt

variable {runner : Runner} {site : Site} {scene : Scene} {handle : Handle} {table : TableRef}

/-- A named field of a table without a metatable is set in that table alone. -/
theorem evaluation_assign_alone (runner : Runner) (site : Site)
    (bare : (scene.interpreter.heap.table table).metatable = none) (name : String) (value : Raw) (subject : Subject) :
    evaluation runner (site.assign (.table table) (.ofString name) value subject) scene =
      some (.ok (), scene.setHeap (scene.interpreter.heap.modifyTable table (·.assign (.ofString name) value))) := by
  let between := ((HeapRequest.get table (.ofString name)).answer scene.interpreter.heap).2
  have stored : evaluation runner (site.rawSet table (.ofString name) value) (scene.setHeap between) =
      some (.ok (), scene.setHeap (scene.interpreter.heap.modifyTable table (·.assign (.ofString name) value))) := by
    rw [← Heap.set_get]
    rfl
  have chain : site.assign (.table table) (.ofString name) value subject =
      site.assignChain (.ofString name) value (1999 + 1) (.table table) subject := rfl
  have read : ((scene.setHeap between).interpreter.heap.table table).metatable = none :=
    ((Heap.keepsMetatables_get table (.ofString name)).same table).trans bare
  rw [chain, Site.assignChain]
  simp only [evaluation_bind, evaluation_ask, Scene.withHeap_eq, Option.bind_some]
  split
  · next same _ =>
    cases same
    exact stored
  · have absent : evaluation runner _ (scene.setHeap between) = _ := evaluation_metavalue runner read "__newindex"
    rw [evaluation_bind, absent]
    exact stored

namespace Table

theorem exec_setField_alone (known : scene.IsBare handle table) (name : String) {value : Value} {raw : Raw}
    (given : scene.rawOf value = .ok raw) : exec runner (setField handle name value) site scene =
      some (.ok (), scene.setHeap (scene.interpreter.heap.modifyTable table (·.assign (.ofString name) raw))) := by
  let below := scene.setStack (.table table :: scene.stack)
  let staged := scene.setStack (raw :: .table table :: scene.stack)
  have first : exec runner (Stack.push (.table handle)) site scene = some (.ok (), below) := by
    rw [Stack.exec_push, show scene.rawOf (.table handle) = _ from known.found]
  have second : exec runner (Stack.push value) site below = some (.ok (), staged) := by
    rw [Stack.exec_push, show below.rawOf value = _ from given]
    rfl
  have third : exec runner (Stack.tableAt (-2)) site staged = some (.ok table, staged) :=
    Stack.exec_tableAt (show staged.stack[1]? = some (.table table) from rfl)
  have bare : (below.interpreter.heap.table table).metatable = none := known.bare
  have assigned := evaluation_assign_alone runner ((described site).nested.enter 0) bare name raw .other
  have staging : exec runner (do Stack.push (.table handle); Stack.push value; Stack.setField (-2) name) site scene =
      some (.ok (), below.setHeap (scene.interpreter.heap.modifyTable table (·.assign (.ofString name) raw))) := by
    rw [exec_bind_ok first, exec_bind_ok second, Stack.setField, exec_bind_ok third, exec_bind_ok (Stack.exec_popRaw rfl)]
    change exec runner (Act.use _) site below = _
    rw [Act.use, exec_bind, exec_evaluate, show interpret runner (ofEval _) below = _ from assigned]
    rfl
  rw [setField, Stack.exec_framed, staging]
  change some (_, Scene.setStack _ ((Raw.table table :: scene.stack).drop ((Raw.table table :: scene.stack).length - _))) = _
  have one : (Raw.table table :: scene.stack).length - scene.stack.length = 1 := by simp
  rw [one]
  rfl

end Table

/-! ### A table of named values -/

/-- What scripts get for a value that is no object. -/
def Value.toScalar : Value → Raw
  | .number value => ofDouble value
  | .string value => .ofString value
  | .boolean value => .boolean value
  | .nil | .table _ | .function _ => .nil

theorem Scene.rawOf_scalar (scene : Scene) {value : Value} (free : value.handle? = none) :
    scene.rawOf value = .ok value.toScalar := by
  cases value with
  | table _ | function _ => cases free
  | number _ | string _ | boolean _ | nil => rfl

/-- Named values as scripts get them. -/
def scalars (fields : List (String × Value)) : List (String × Raw) := fields.map (Prod.map id Value.toScalar)

/-- The scene with one more table, which is registered. -/
def Scene.withTable (scene : Scene) (object : TableObject) : Scene :=
  (scene.setHeap (scene.interpreter.heap.newTable object).2).register (.table ⟨scene.interpreter.heap.tables.size⟩)

/-- The new handle denotes the new table. -/
theorem Scene.resolve_withTable (valid : scene.interpreter.registry.Valid) (object : TableObject) :
    (scene.withTable object).resolve (scene.nextHandle scene.interpreter.heap.tables.size) =
      .ok (.table ⟨scene.interpreter.heap.tables.size⟩) := by
  have still : (scene.setHeap (scene.interpreter.heap.newTable object).2).interpreter.registry.Valid := valid
  exact Scene.resolve_register still _ _

theorem Scene.grows_withTable (valid : scene.interpreter.registry.Valid) (object : TableObject) :
    scene.Grows (scene.withTable object) := by
  let filled := scene.setHeap (scene.interpreter.heap.newTable object).2
  have early : scene.Grows filled := ⟨rfl, fun _ _ known => known⟩
  have still : filled.interpreter.registry.Valid := valid
  exact early.trans (.register still _)

theorem Scene.table_withTable (scene : Scene) (object : TableObject) :
    (scene.withTable object).interpreter.heap.table ⟨scene.interpreter.heap.tables.size⟩ = object := by
  change ((scene.interpreter.heap.tables.push object)[scene.interpreter.heap.tables.size]?).getD _ = object
  rw [Array.getElem?_push_size, Option.getD_some]

namespace Table

theorem exec_setFields_alone (known : scene.IsBare handle table) {fields : List (String × Value)}
    (free : ∀ field ∈ fields, field.2.handle? = none) : exec runner (setFields handle fields) site scene =
      some (.ok (), scene.setHeap (scene.interpreter.heap.modifyTable table (·.assignAll (scalars fields)))) := by
  induction fields generalizing scene with
  | nil =>
    have same : scene.interpreter.heap.modifyTable table (·.assignAll (scalars [])) = scene.interpreter.heap :=
      Heap.modifyTable_id table
    rw [same]
    rfl
  | cons field rest ih =>
    obtain ⟨name, value⟩ := field
    obtain ⟨scalar, free⟩ := List.forall_mem_cons.mp free
    have set : exec runner (setField handle name value) site scene = _ := exec_setField_alone known name (scene.rawOf_scalar scalar)
    let between := scene.setHeap (scene.interpreter.heap.modifyTable table (·.assign (.ofString name) value.toScalar))
    have still : between.IsBare handle table := ⟨known.found,
      ((Heap.keepsMetatables_modifyTable table fun _ => TableObject.metatable_assign ..).same table).trans known.bare⟩
    have others : exec runner (setFields handle rest) site between = _ := ih still free
    have both : between.interpreter.heap.modifyTable table (·.assignAll (scalars rest)) =
        scene.interpreter.heap.modifyTable table (·.assignAll (scalars ((name, value) :: rest))) :=
      Heap.modifyTable_modifyTable table _ _
    refine (exec_bind_ok set _).trans (others.trans ?_)
    rw [both]
    rfl

/-- A new table that tells some values by their names. -/
def ofFields (fields : List (String × Value)) : Act Handle := do
  let table ← create
  setFields table fields
  return table

/-- To make such a table takes no script and comes to one more table. -/
theorem exec_ofFields (valid : scene.interpreter.registry.Valid) {fields : List (String × Value)}
    (free : ∀ field ∈ fields, field.2.handle? = none) : exec runner (ofFields fields) site scene =
      some (.ok (scene.nextHandle scene.interpreter.heap.tables.size), scene.withTable (.ofFields (scalars fields))) := by
  let table : TableRef := ⟨scene.interpreter.heap.tables.size⟩
  let handle := scene.nextHandle table.index
  let made := scene.withTable (.empty 0 0)
  have created : exec runner create site scene = some (.ok handle, made) := exec_create
  have known : made.IsBare handle table :=
    ⟨scene.resolve_withTable valid _, congrArg TableObject.metatable (scene.table_withTable _)⟩
  have filled : exec runner (setFields handle fields) site made = _ := exec_setFields_alone known free
  refine (exec_bind_ok created _).trans ((exec_bind_ok filled _).trans ?_)
  rw [show made.interpreter.heap = (scene.interpreter.heap.newTable (.empty 0 0)).2 from rfl, Heap.modifyTable_newTable]
  rfl

end Table

end TileScript.Bridge
