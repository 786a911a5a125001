import TileScript.Proofs.Execution

/-! Tables without a metatable. To read or to set a field there is a matter of the heap alone: it runs no
script and gives no table a metatable. -/

namespace TileScript.Script

theorem Raw.ofString_injective : Function.Injective Raw.ofString :=
  fun _ _ same => String.toByteArray_inj.mp (Raw.string.inj same)

/-- A value that is set under a name is read there, and nowhere else. -/
theorem TableObject.get_set_ofString (object : TableObject) (name : String) (value key : Raw) :
    (object.set (.ofString name) value).get key = if key = .ofString name then value else object.get key := by
  let others := object.contents.others.set (.ofString name) value
  have stored : (object.set (.ofString name) value).get key = Contents.get ⟨object.contents.items, others⟩ key.toKey := rfl
  split
  · next same =>
    subst same
    exact Fields.get_set_self ..
  · next different =>
    have apart : key.toKey ≠ .ofString name := by
      cases key with
      | number _ =>
        simp only [Raw.toKey]
        split <;> exact nofun
      | _ => exact different
    have items : Contents.item? ⟨object.contents.items, others⟩ key.toKey = object.contents.item? key.toKey := by
      cases key.toKey <;> rfl
    rw [stored, TableObject.get, Contents.get, Contents.get, items]
    split
    · rfl
    · exact Fields.get_set_of_ne _ _ _ _ apart

namespace Heap

/-- What a table has under a name, nil if it has nothing there. -/
def field (heap : Heap) (table : TableRef) (name : String) : Raw := (heap.table table).get (.ofString name)

/-- Every table has the metatable that it had, and none has come to wait for its end. -/
structure KeepsMetatables (before after : Heap) : Prop where
  same : ∀ place, (after.table place).metatable = (before.table place).metatable
  awaiting : after.awaiting = before.awaiting

theorem KeepsMetatables.refl (heap : Heap) : heap.KeepsMetatables heap := ⟨fun _ => rfl, rfl⟩

theorem KeepsMetatables.trans {first second third : Heap} (early : first.KeepsMetatables second)
    (late : second.KeepsMetatables third) : first.KeepsMetatables third :=
  ⟨fun place => (late.same place).trans (early.same place), late.awaiting.trans early.awaiting⟩

variable {heap : Heap}

theorem keepsMetatables_modifyTable (place : TableRef) {change : TableObject → TableObject}
    (keeps : ∀ object, (change object).metatable = object.metatable) :
    heap.KeepsMetatables (heap.modifyTable place change) := by
  refine ⟨fun other => ?_, rfl⟩
  simp only [Heap.table, Heap.modifyTable, Array.getElem?_modify]
  split
  · cases heap.tables[other.index]? with
    | none => rfl
    | some object => exact keeps object
  · rfl

theorem keepsMetatables_newTable (items fields : Nat) : heap.KeepsMetatables (heap.newTable (.empty items fields)).2 := by
  refine ⟨fun other => ?_, rfl⟩
  simp only [Heap.table, Heap.newTable, Array.getElem?_push]
  split
  next new => rw [new, Array.getElem?_eq_none (Nat.le_refl _)]; rfl
  · rfl

theorem keepsMetatables_get (table : TableRef) (key : Raw) :
    heap.KeepsMetatables ((HeapRequest.get table key).answer heap).2 := by
  simp only [HeapRequest.answer]
  split
  · exact .refl heap
  · exact keepsMetatables_modifyTable table fun _ => rfl

theorem keepsMetatables_set (table : TableRef) (key value : Raw) :
    heap.KeepsMetatables ((HeapRequest.set table key value).answer heap).2 :=
  keepsMetatables_modifyTable table fun _ => rfl

/-- Every table has at every key what it had there. -/
def ReadsAlike (before after : Heap) : Prop := ∀ place key, (after.table place).get key = (before.table place).get key

theorem ReadsAlike.refl (heap : Heap) : heap.ReadsAlike heap := fun _ _ => rfl

theorem ReadsAlike.trans {first second third : Heap} (early : first.ReadsAlike second) (late : second.ReadsAlike third) :
    first.ReadsAlike third := fun place key => (late place key).trans (early place key)

theorem ReadsAlike.field {before after : Heap} (alike : before.ReadsAlike after) (table : TableRef) :
    after.field table = before.field table := funext fun name => alike table (.ofString name)

/-- To read a field can rearrange a table, but not what it holds. -/
theorem readsAlike_get (table : TableRef) (key : Raw) : heap.ReadsAlike ((HeapRequest.get table key).answer heap).2 := by
  simp only [HeapRequest.answer]
  split
  · exact .refl heap
  · intro place other
    simp only [Heap.table, Heap.modifyTable, Array.getElem?_modify]
    split
    · cases heap.tables[place.index]? <;> rfl
    · rfl

theorem answer_get (table : TableRef) (key : Raw) :
    ((HeapRequest.get table key).answer heap).1 = (heap.table table).get key := rfl

/-- One table has another value under a name, and nothing else is read differently. -/
structure Stores (before after : Heap) (table : TableRef) (name : String) (value : Raw) : Prop where
  size : after.tables.size = before.tables.size
  get : table.index < before.tables.size → ∀ place key, (after.table place).get key =
    if place = table ∧ key = .ofString name then value else (before.table place).get key

theorem size_modifyTable (place : TableRef) (change : TableObject → TableObject) :
    (heap.modifyTable place change).tables.size = heap.tables.size := Array.size_modify

theorem size_get (table : TableRef) (key : Raw) :
    ((HeapRequest.get table key).answer heap).2.tables.size = heap.tables.size := by
  simp only [HeapRequest.answer]
  split
  · rfl
  · exact size_modifyTable table _

theorem stores_set (table : TableRef) (name : String) (value : Raw) :
    heap.Stores ((HeapRequest.set table (.ofString name) value).answer heap).2 table name value where
  size := size_modifyTable table _
  get inside place key := by
    simp only [HeapRequest.answer, Heap.table, Heap.modifyTable, Array.getElem?_modify]
    by_cases here : place = table
    · subst here
      simp [inside, TableObject.get_set_ofString]
    · have other : table.index ≠ place.index := fun same => here (congrArg TableRef.mk same.symm)
      simp [here, other]

theorem Stores.since {first second third : Heap} {table : TableRef} {name : String} {value : Raw}
    (size : second.tables.size = first.tables.size) (alike : first.ReadsAlike second)
    (stores : second.Stores third table name value) : first.Stores third table name value where
  size := stores.size.trans size
  get inside place key := by rw [stores.get (size ▸ inside), alike]

/-- No table has a metatable. -/
def IsPlain (heap : Heap) : Prop := ∀ place, (heap.table place).metatable = none

theorem KeepsMetatables.isPlain {after : Heap} (kept : heap.KeepsMetatables after) (plain : heap.IsPlain) : after.IsPlain :=
  fun place => (kept.same place).trans (plain place)

theorem IsPlain.newFunction (plain : heap.IsPlain) (object : FunctionObject) : (heap.newFunction object).2.IsPlain := plain

private theorem metatable_setAll (entries : List (Raw × Raw)) (object : TableObject) :
    (entries.foldl (fun object (key, value) => object.set key value) object).metatable = object.metatable := by
  induction entries generalizing object with
  | nil => rfl
  | cons entry rest ih => exact (ih _).trans rfl

theorem initial_isPlain : Heap.initial.IsPlain := by
  intro place
  simp only [Heap.table, Heap.initial, List.getElem?_toArray, List.getElem?_map]
  cases LibraryTable.all[place.index]? with
  | none => rfl
  | some library => exact metatable_setAll _ _

end Heap
end TileScript.Script

namespace TileScript.Bridge
open Script

variable {scene : Scene}

/-- The scene with another heap. -/
def Scene.setHeap (scene : Scene) (heap : Heap) : Scene :=
  { scene with interpreter := { scene.interpreter with heap := heap } }

theorem Scene.withHeap_eq {α : Type} (scene : Scene) (change : Heap → α × Heap) :
    scene.withHeap change =
      ((change scene.interpreter.heap).1, scene.setHeap (change scene.interpreter.heap).2) := rfl

/-- Nothing is found in a metatable where there is none. -/
theorem evaluation_metavalue (runner : Runner) {table : TableRef}
    (bare : (scene.interpreter.heap.table table).metatable = none) (name : String) :
    evaluation runner (Site.metavalue (.table table) name) scene = some (.ok .nil, scene) := by
  rw [Site.metavalue, evaluation_bind, evaluation_ask, Scene.withHeap_eq]
  simp only [HeapRequest.answer, Heap.metatable, bare]
  rfl

/-- A named field of a table without a metatable is set without further ado. -/
theorem evaluation_assign (runner : Runner) (site : Site) {table : TableRef}
    (bare : (scene.interpreter.heap.table table).metatable = none) (name : String) (value : Raw) (subject : Subject) :
    ∃ heap, scene.interpreter.heap.KeepsMetatables heap ∧ scene.interpreter.heap.Stores heap table name value ∧
      evaluation runner (site.assign (.table table) (.ofString name) value subject) scene =
        some (.ok (), scene.setHeap heap) := by
  have stored : ∀ between : Heap, scene.interpreter.heap.KeepsMetatables between →
      between.tables.size = scene.interpreter.heap.tables.size → scene.interpreter.heap.ReadsAlike between →
      ∃ heap, scene.interpreter.heap.KeepsMetatables heap ∧ scene.interpreter.heap.Stores heap table name value ∧
        evaluation runner (site.rawSet table (.ofString name) value) (scene.setHeap between) =
          some (.ok (), scene.setHeap heap) :=
    fun between kept size alike =>
      ⟨_, kept.trans (Heap.keepsMetatables_set table (.ofString name) value),
        .since size alike (Heap.stores_set table name value), rfl⟩
  have read : scene.interpreter.heap.KeepsMetatables _ := Heap.keepsMetatables_get table (.ofString name)
  have size : _ = scene.interpreter.heap.tables.size := Heap.size_get table (.ofString name)
  have alike : scene.interpreter.heap.ReadsAlike _ := Heap.readsAlike_get table (.ofString name)
  have chain : site.assign (.table table) (.ofString name) value subject =
      site.assignChain (.ofString name) value (1999 + 1) (.table table) subject := rfl
  rw [chain, Site.assignChain]
  simp only [evaluation_bind, evaluation_ask, Scene.withHeap_eq, Option.bind_some]
  generalize (HeapRequest.get table (.ofString name)).answer scene.interpreter.heap = answer at read size alike ⊢
  obtain ⟨old, between⟩ := answer
  split
  · next same _ =>
    cases same
    exact stored between read size alike
  · have absent : evaluation runner _ (scene.setHeap between) = _ :=
      evaluation_metavalue runner ((read.same table).trans bare) "__newindex"
    rw [evaluation_bind, absent]
    exact stored between read size alike

/-- What a table without a metatable has at a key is there to be read, be it nil. -/
theorem evaluation_index (runner : Runner) (site : Site) {table : TableRef}
    (bare : (scene.interpreter.heap.table table).metatable = none) (key : Raw) (subject : Subject) :
    ∃ heap, scene.interpreter.heap.KeepsMetatables heap ∧ scene.interpreter.heap.ReadsAlike heap ∧
      evaluation runner (site.index (.table table) key subject) scene =
        some (.ok ((scene.interpreter.heap.table table).get key), scene.setHeap heap) := by
  have kept : scene.interpreter.heap.KeepsMetatables _ := Heap.keepsMetatables_get table key
  have alike : scene.interpreter.heap.ReadsAlike _ := Heap.readsAlike_get table key
  have chain : site.index (.table table) key subject = site.indexChain key (1999 + 1) (.table table) subject := rfl
  rw [chain, Site.indexChain, ← Heap.answer_get]
  simp only [evaluation_bind, evaluation_ask, Scene.withHeap_eq, Option.bind_some]
  generalize (HeapRequest.get table key).answer scene.interpreter.heap = answer at kept alike ⊢
  obtain ⟨value, between⟩ := answer
  split
  · exact ⟨between, kept, alike, rfl⟩
  · next nothing =>
    have absent : evaluation runner _ (scene.setHeap between) = _ :=
      evaluation_metavalue runner ((kept.same table).trans bare) "__index"
    have none : value = .nil := by
      cases value <;> first | rfl | exact absurd rfl nothing
    subst none
    rw [evaluation_bind, absent]
    exact ⟨between, kept, alike, rfl⟩

end TileScript.Bridge
