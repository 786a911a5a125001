import TileScript.Bridge.Check
import TileScript.Proofs.Undisturbed

/-! Values that conform to parameters. An argument is judged as it is, and a field through a handle to
its table; as long as no table has a metatable, both come to what the heap holds. -/

namespace TileScript.Bridge
open Script Attempt

mutual

inductive Parameter.Conforms (heap : Heap) : Parameter → Raw → Prop where
  | specific {type : ParameterType} {value : Raw} :
    ParameterType.Conforms heap type value → Parameter.Conforms heap (.specific type) value
  | oneOf {types : List ParameterType} {type : ParameterType} {value : Raw} :
    type ∈ types → ParameterType.Conforms heap type value → Parameter.Conforms heap (.oneOf types) value
  | any (value : Raw) : Parameter.Conforms heap .any value

inductive ParameterType.Conforms (heap : Heap) : ParameterType → Raw → Prop where
  | kind {wanted : Kind} {value : Raw} : kindOf value = .ok wanted → ParameterType.Conforms heap (.kind wanted) value
  | schema {fields : List (String × Parameter)} {table : TableRef} :
    (∀ name parameter, (name, parameter) ∈ fields → Parameter.Conforms heap parameter (heap.field table name)) →
    ParameterType.Conforms heap (.schema (.mk fields)) (.table table)

end

/-! ### Conformance -/

section Conformance

variable {heap : Heap} {value : Raw}

theorem conforms_specific {type : ParameterType} : (Parameter.specific type).Conforms heap value ↔ type.Conforms heap value := by
  constructor
  · rintro ⟨conforms⟩
    exact conforms
  · exact .specific

theorem conforms_oneOf {types : List ParameterType} :
    (Parameter.oneOf types).Conforms heap value ↔ ∃ type ∈ types, type.Conforms heap value := by
  constructor
  · intro conforms
    cases conforms with
    | oneOf member conforms => exact ⟨_, member, conforms⟩
  · rintro ⟨type, member, conforms⟩
    exact .oneOf member conforms

theorem conforms_kind {wanted : Kind} : (ParameterType.kind wanted).Conforms heap value ↔ kindOf value = .ok wanted := by
  constructor
  · rintro ⟨same⟩
    assumption
  · exact .kind

theorem conforms_schema {fields : List (String × Parameter)} {table : TableRef} :
    (ParameterType.schema (.mk fields)).Conforms heap (.table table) ↔
      ∀ name parameter, (name, parameter) ∈ fields → parameter.Conforms heap (heap.field table name) := by
  constructor
  · intro conforms
    cases conforms with
    | schema known => exact known
  · exact .schema

theorem ParameterType.Conforms.is_table {schema : TableSchema} (conforms : (ParameterType.schema schema).Conforms heap value) :
    ∃ table, value = .table table := by
  cases conforms
  exact ⟨_, rfl⟩

/-! ### What does not matter -/

mutual

/-- The same parameter with alternatives in another order, here or in a field. -/
inductive Parameter.Reordered : Parameter → Parameter → Prop where
  | specific {type other : ParameterType} :
    ParameterType.Reordered type other → Parameter.Reordered (.specific type) (.specific other)
  | oneOf {types between others : List ParameterType} :
    TypesReordered types between → between.Perm others → Parameter.Reordered (.oneOf types) (.oneOf others)
  | any : Parameter.Reordered .any .any

inductive ParameterType.Reordered : ParameterType → ParameterType → Prop where
  | kind (kind : Kind) : ParameterType.Reordered (.kind kind) (.kind kind)
  | schema {fields others : List (String × Parameter)} :
    FieldsReordered fields others → ParameterType.Reordered (.schema (.mk fields)) (.schema (.mk others))

inductive TypesReordered : List ParameterType → List ParameterType → Prop where
  | nil : TypesReordered [] []
  | cons {type other : ParameterType} {types others : List ParameterType} :
    ParameterType.Reordered type other → TypesReordered types others → TypesReordered (type :: types) (other :: others)

inductive FieldsReordered : List (String × Parameter) → List (String × Parameter) → Prop where
  | nil : FieldsReordered [] []
  | cons (name : String) {parameter other : Parameter} {fields others : List (String × Parameter)} :
    Parameter.Reordered parameter other → FieldsReordered fields others →
    FieldsReordered ((name, parameter) :: fields) ((name, other) :: others)

end

mutual

theorem conforms_reordered (parameter : Parameter) {other : Parameter} (reordered : parameter.Reordered other) (value : Raw) :
    parameter.Conforms heap value ↔ other.Conforms heap value := by
  cases parameter with
  | specific type =>
    cases reordered with
    | specific reordered => rw [conforms_specific, conforms_specific, type_reordered type reordered value]
  | oneOf types =>
    cases reordered with
    | oneOf paired permuted =>
      rw [conforms_oneOf, conforms_oneOf, types_reordered types paired value]
      simp only [permuted.mem_iff]
  | any =>
    cases reordered
    exact Iff.rfl
termination_by structural parameter

theorem type_reordered (type : ParameterType) {other : ParameterType} (reordered : type.Reordered other) (value : Raw) :
    type.Conforms heap value ↔ other.Conforms heap value := by
  cases type with
  | kind =>
    cases reordered
    exact Iff.rfl
  | schema schema =>
    cases schema with
    | mk fields =>
      cases reordered with
      | schema reordered =>
        constructor
        · intro conforms
          obtain ⟨table, rfl⟩ := conforms.is_table
          rw [conforms_schema] at conforms ⊢
          exact (fields_reordered fields reordered table).mp conforms
        · intro conforms
          obtain ⟨table, rfl⟩ := conforms.is_table
          rw [conforms_schema] at conforms ⊢
          exact (fields_reordered fields reordered table).mpr conforms
termination_by structural type

theorem types_reordered (types : List ParameterType) {others : List ParameterType} (reordered : TypesReordered types others)
    (value : Raw) : (∃ type ∈ types, type.Conforms heap value) ↔ ∃ type ∈ others, type.Conforms heap value := by
  cases types with
  | nil =>
    cases reordered
    exact Iff.rfl
  | cons type types =>
    cases reordered with
    | cons first later =>
      simp only [List.mem_cons, exists_eq_or_imp]
      rw [type_reordered type first value, types_reordered types later value]
termination_by structural types

theorem fields_reordered (fields : List (String × Parameter)) {others : List (String × Parameter)}
    (reordered : FieldsReordered fields others) (table : TableRef) :
    (∀ name parameter, (name, parameter) ∈ fields → parameter.Conforms heap (heap.field table name)) ↔
      ∀ name parameter, (name, parameter) ∈ others → parameter.Conforms heap (heap.field table name) := by
  cases fields with
  | nil =>
    cases reordered
    exact Iff.rfl
  | cons field fields =>
    obtain ⟨name, parameter⟩ := field
    cases reordered with
    | @cons _ _ other _ others first later =>
      have head : parameter.Conforms heap (heap.field table name) ↔ other.Conforms heap (heap.field table name) :=
        conforms_reordered parameter first _
      have rest := fields_reordered fields later table
      simp only [List.mem_cons, Prod.mk.injEq, or_imp, forall_and, and_imp, forall_eq_apply_imp_iff, forall_eq]
      rw [head, rest]
termination_by structural fields

end

mutual

/-- A schema inside the parameter declares a field of that name. -/
inductive Parameter.Declares (name : String) : Parameter → Prop where
  | specific {type : ParameterType} : ParameterType.Declares name type → Parameter.Declares name (.specific type)
  | oneOf {types : List ParameterType} {type : ParameterType} :
    type ∈ types → ParameterType.Declares name type → Parameter.Declares name (.oneOf types)

inductive ParameterType.Declares (name : String) : ParameterType → Prop where
  | field {fields : List (String × Parameter)} {parameter : Parameter} :
    (name, parameter) ∈ fields → ParameterType.Declares name (.schema (.mk fields))
  | within {fields : List (String × Parameter)} {other : String} {parameter : Parameter} :
    (other, parameter) ∈ fields → Parameter.Declares name parameter → ParameterType.Declares name (.schema (.mk fields))

end

/-- Fields that no schema declares have no say. -/
theorem conforms_undeclared {other : Heap} {parameter : Parameter} (conforms : parameter.Conforms heap value)
    (agree : ∀ table name, parameter.Declares name → other.field table name = heap.field table name) :
    parameter.Conforms other value := by
  let agrees (declares : String → Prop) : Prop := ∀ table name, declares name → other.field table name = heap.field table name
  -- The induction is on why the value conforms, for parameters and types together.
  refine @Parameter.Conforms.rec heap
    (fun parameter value _ => agrees (fun name => parameter.Declares name) → parameter.Conforms other value)
    (fun type value _ => agrees (fun name => type.Declares name) → type.Conforms other value)
    ?specific ?oneOf ?any ?kind ?schema parameter value conforms agree
  case specific =>
    intro type value _ ih agree
    exact .specific (ih fun table name declared => agree table name (.specific declared))
  case oneOf =>
    intro types type value member _ ih agree
    exact .oneOf member (ih fun table name declared => agree table name (.oneOf member declared))
  case any => exact fun value _ => .any value
  case kind => exact fun same _ => .kind same
  case schema =>
    intro fields table _ ih agree
    refine .schema fun name parameter member => ?_
    rw [agree table name (.field member)]
    exact ih name parameter member fun table name declared => agree table name (.within member declared)

end Conformance

/-! ### Checks that decide -/

/-- The heap holds what the scene has a script read, and no table has a metatable. -/
structure Scene.Mirrors (scene : Scene) (heap : Heap) : Prop where
  registry : scene.interpreter.registry.Valid
  plain : scene.interpreter.heap.IsPlain
  reads : heap.ReadsAlike scene.interpreter.heap

theorem Scene.Unaltered.mirrors {before after : Scene} (same : before.Unaltered after) {heap : Heap}
    (mirrors : before.Mirrors heap) : after.Mirrors heap :=
  ⟨same.registry, same.metatables.isPlain mirrors.plain, mirrors.reads.trans same.reads⟩

namespace Check

variable {runner : Runner} {site : Site} {scene : Scene} {heap : Heap}

/-- A check that ends without a trace, and accepts what fits. -/
def Decides (check : Check) (runner : Runner) (site : Site) (scene : Scene) (fits : Prop) : Prop :=
  check.Finds runner site scene fun result _ => result = .ok () ↔ fits

theorem decides_return (valid : scene.interpreter.registry.Valid) {fits : Prop} (known : fits) :
    Decides (return) runner site scene fits := finds_settle valid (by simp [known])

theorem decides_throw (valid : scene.interpreter.registry.Valid) {fits : Prop} (message : String) (known : ¬ fits) :
    Decides (throw message) runner site scene fits := finds_settle valid (by simp [known])

theorem Decides.of_iff {check : Check} {fits known : Prop} (decides : check.Decides runner site scene known) (same : known ↔ fits) :
    check.Decides runner site scene fits := Finds.weaken decides fun _ _ decided => decided.trans same

theorem Decides.mapError {check : Check} {fits : Prop} (decides : check.Decides runner site scene fits) (change : String → String) :
    Decides (check.mapError change) runner site scene fits := by
  refine Finds.mapError decides change fun result after decided => ?_
  cases result with
  | ok _ => exact decided
  | error message =>
    rw [← decided]
    simp [Except.mapError]

/-- The second check decides only if the first one accepts. -/
theorem Decides.both {first second : Check} {early late : Prop} (decides : first.Decides runner site scene early)
    (onward : ∀ between, scene.Unaltered between → second.Decides runner site between late) :
    Decides (do first; second) runner site scene (early ∧ late) := by
  refine Finds.bind decides (fun _ between same decided => ?_) fun message _ decided => ?_
  · have known : early := decided.mp rfl
    exact (onward between same).of_iff (by simp [known])
  · have unknown : ¬ early := fun known => nomatch decided.mpr known
    simp [unknown]

theorem Decides.accepts {check : Check} {fits : Prop} (decides : check.Decides runner site scene fits) :
    (accepts check).Finds runner site scene fun result _ => ∃ accepted, result = .ok accepted ∧ (accepted = true ↔ fits) := by
  refine (Finds.observe decides).bind (fun observed between same decided => ?_) (by simp)
  obtain ⟨_, ⟨⟩, decided⟩ := decided
  cases observed with
  | ok _ => exact finds_settle same.registry ⟨true, rfl, by simpa using decided⟩
  | error message => exact finds_settle same.registry ⟨false, rfl, by simpa using decided⟩

/-- One type after the other is tried. -/
theorem decides_first {check : Check} {others : Attempt String Bool} {type : ParameterType} {rest : List ParameterType} {value : Raw}
    (decides : check.Decides runner site scene (type.Conforms heap value))
    (onward : ∀ between, scene.Unaltered between → others.Finds runner site between fun result _ =>
      ∃ accepted, result = .ok accepted ∧ (accepted = true ↔ ∃ type ∈ rest, type.Conforms heap value)) :
    Attempt.Finds (do if ← accepts check then return true else others) runner site scene fun result _ =>
      ∃ accepted, result = .ok accepted ∧ (accepted = true ↔ ∃ other ∈ type :: rest, other.Conforms heap value) := by
  refine decides.accepts.bind (fun accepted between same decided => ?_) (by simp)
  obtain ⟨_, ⟨⟩, decided⟩ := decided
  split
  · next accepted => exact finds_settle same.registry ⟨true, rfl, by simp [decided.mp accepted]⟩
  · next rejected =>
    have unfit : ¬ type.Conforms heap value := fun fits => rejected (decided.mpr fits)
    simpa [unfit] using onward between same

/-- A check with a last word. -/
theorem decides_accepted {attempt : Attempt String Bool} {refuse : Check} {fits : Prop}
    (accepts : attempt.Finds runner site scene fun result _ => ∃ accepted, result = .ok accepted ∧ (accepted = true ↔ fits))
    (refuses : ∀ between, scene.Unaltered between → refuse.Decides runner site between False) :
    Decides (do if ← attempt then return else refuse) runner site scene fits := by
  refine Finds.bind accepts (fun accepted between same decided => ?_) (by simp)
  obtain ⟨_, ⟨⟩, decided⟩ := decided
  split
  · next accepted => exact decides_return same.registry (decided.mp accepted)
  · next rejected =>
    have unfit : ¬ fits := fun fits => rejected (decided.mpr fits)
    exact (refuses between same).of_iff (by simp [unfit])

theorem finds_answer {α : Type} {act : Act α} {post : Except Error α → Scene → Prop} (finds : act.Finds runner site scene post) :
    (answer act).Finds runner site scene fun result after => ∃ found, result = found.mapError Error.text ∧ post found after :=
  finds.mapError _ fun found _ known => ⟨found, rfl, known⟩

theorem decides_refusal {act : Act Kind} {post : Except Error Kind → Scene → Prop} (finds : act.Finds runner site scene post)
    {refuse : Kind → Check} (refuses : ∀ actual between, scene.Unaltered between → (refuse actual).Decides runner site between False) :
    Decides (do refuse (← answer act)) runner site scene False :=
  (finds_answer finds).bind (fun actual between same _ => refuses actual between same) (by simp)

/-- A check of a kind, however the kind is found out. -/
theorem decides_kind {act : Act Kind} {value : Raw} {wanted : Kind} {refuse : Kind → Check}
    (finds : act.Finds runner site scene fun result _ => result = (kindOf value).mapError Error.unsupported)
    (refuses : ∀ actual between, scene.Unaltered between → (refuse actual).Decides runner site between False) :
    Decides (do let actual ← answer act; if actual ≠ wanted then refuse actual) runner site scene (kindOf value = .ok wanted) := by
  refine (finds_answer finds).bind (fun actual between same known => ?_) fun message between known => ?_
  · obtain ⟨_, shown, rfl⟩ := known
    have found : kindOf value = .ok actual := by
      cases known : kindOf value with
      | ok kind =>
        rw [known] at shown
        cases shown
        rfl
      | error foreign =>
        rw [known] at shown
        cases shown
    split
    · next other => exact (refuses actual between same).of_iff (by simp [found, other])
    · next same' => exact decides_return same.registry (by simpa [found] using same')
  · obtain ⟨_, shown, rfl⟩ := known
    constructor
    · exact nofun
    · intro found
      rw [found] at shown
      cases shown

/-- A check of a table, however it is got at. -/
theorem decides_inner {act : Act Value} {raw : Raw} {check : Handle → Check} {refuse : Value → Check} {schema : TableSchema}
    (finds : act.Finds runner site scene fun result after =>
      match result with
      | .ok value => after.Shows raw value
      | .error _ => ∃ foreign, kindOf raw = .error foreign)
    (tables : ∀ table inner between, scene.Unaltered between → between.resolve inner = .ok (.table table) →
      (check inner).Decides runner site between ((ParameterType.schema schema).Conforms heap (.table table)))
    (refuses : ∀ value between, scene.Unaltered between → (refuse value).Decides runner site between False) :
    Decides (do match ← answer act with | .table inner => check inner | other => refuse other) runner site scene
      ((ParameterType.schema schema).Conforms heap raw) := by
  have unfit : (∀ table, raw ≠ .table table) → ¬ (ParameterType.schema schema).Conforms heap raw := by
    intro other conforms
    obtain ⟨table, same⟩ := conforms.is_table
    exact other table same
  refine (finds_answer finds).bind (fun value between same known => ?_) fun message between known => ?_
  · obtain ⟨read, shown, seen⟩ := known
    cases read with
    | error _ => cases shown
    | ok read =>
      cases shown
      cases seen with
      | table table found _ => exact tables table _ between same found
      | nil | boolean _ | integer _ | number _ | string _ | function _ _ _ =>
        exact (refuses _ between same).of_iff (by simp [unfit])
  · obtain ⟨read, shown, seen⟩ := known
    cases read with
    | ok _ => cases shown
    | error _ =>
      obtain ⟨foreign, unknown⟩ := seen
      have other : ∀ table, raw ≠ .table table := by
        rintro table rfl
        cases unknown
      simp [unfit other]

/-! ### Fields -/

theorem finds_field_kind {handle : Handle} {table : TableRef} (mirrors : scene.Mirrors heap) (found : scene.resolve handle = .ok (.table table)) (name : String) :
    (Table.fieldKind handle name).Finds runner site scene fun result _ =>
      result = (kindOf (heap.field table name)).mapError Error.unsupported := by
  have known : (Table.fieldKind handle name).Finds runner site scene _ :=
    Table.finds_fieldKind mirrors.registry ⟨found, mirrors.plain table⟩ name
  rwa [mirrors.reads.field] at known

theorem finds_field {handle : Handle} {table : TableRef} (mirrors : scene.Mirrors heap) (found : scene.resolve handle = .ok (.table table)) (name : String) :
    (Table.getField handle name).Finds runner site scene fun result after =>
      match result with
      | .ok value => after.Shows (heap.field table name) value
      | .error _ => ∃ foreign, kindOf (heap.field table name) = .error foreign := by
  have known : (Table.getField handle name).Finds runner site scene _ :=
    Table.finds_getField mirrors.registry ⟨found, mirrors.plain table⟩ name
  rwa [mirrors.reads.field] at known

mutual

theorem decides_table {scene : Scene} {handle : Handle} {table : TableRef} (mirrors : scene.Mirrors heap)
    (found : scene.resolve handle = .ok (.table table)) (path : String)
    (schema : TableSchema) :
    (Check.table handle path schema).Decides runner site scene ((ParameterType.schema schema).Conforms heap (.table table)) := by
  cases schema with
  | mk fields =>
    have checked := (decides_checkFields mirrors found path fields).of_iff conforms_schema.symm
    rw [Check.table]
    split
    · exact checked.mapError _
    · exact checked

theorem decides_checkFields {scene : Scene} {handle : Handle} {table : TableRef} (mirrors : scene.Mirrors heap)
    (found : scene.resolve handle = .ok (.table table)) (path : String)
    (fields : List (String × Parameter)) :
    (checkFields handle path fields).Decides runner site scene
      (∀ name parameter, (name, parameter) ∈ fields → parameter.Conforms heap (heap.field table name)) := by
  cases fields with
  | nil => exact decides_return mirrors.registry (by simp)
  | cons field rest =>
    obtain ⟨name, parameter⟩ := field
    have first := decides_checkField mirrors found name (below path name) parameter
    refine (first.both fun between same => decides_checkFields (same.mirrors mirrors) (same.grows.resolve found) path rest).of_iff ?_
    simp [or_imp, forall_and]

theorem decides_checkField {scene : Scene} {handle : Handle} {table : TableRef} (mirrors : scene.Mirrors heap)
    (found : scene.resolve handle = .ok (.table table)) (name path : String)
    (parameter : Parameter) :
    (checkField handle name path parameter).Decides runner site scene (parameter.Conforms heap (heap.field table name)) := by
  cases parameter with
  | specific type => exact (decides_checkFieldType mirrors found name path type).of_iff conforms_specific.symm
  | oneOf types =>
    have accepted := decides_anyFieldType mirrors found name path types
    rw [← conforms_oneOf] at accepted
    refine decides_accepted accepted fun between same => ?_
    refine decides_refusal (finds_field_kind (same.mirrors mirrors) (same.grows.resolve found) name) fun actual after still => ?_
    exact decides_throw still.registry _ id
  | any => exact decides_return mirrors.registry (.any _)

theorem decides_anyFieldType {scene : Scene} {handle : Handle} {table : TableRef} (mirrors : scene.Mirrors heap)
    (found : scene.resolve handle = .ok (.table table)) (name path : String)
    (types : List ParameterType) :
    (anyFieldType handle name path types).Finds runner site scene fun result _ =>
      ∃ accepted, result = .ok accepted ∧ (accepted = true ↔ ∃ type ∈ types, type.Conforms heap (heap.field table name)) := by
  cases types with
  | nil => exact finds_settle mirrors.registry ⟨false, rfl, by simp⟩
  | cons type rest =>
    refine decides_first (decides_checkFieldType mirrors found name path type) fun between same => ?_
    exact decides_anyFieldType (same.mirrors mirrors) (same.grows.resolve found) name path rest

theorem decides_checkFieldType {scene : Scene} {handle : Handle} {table : TableRef} (mirrors : scene.Mirrors heap)
    (found : scene.resolve handle = .ok (.table table))
    (name path : String) (type : ParameterType) :
    (checkFieldType handle name path type).Decides runner site scene (type.Conforms heap (heap.field table name)) := by
  cases type with
  | kind wanted =>
    refine Decides.of_iff (decides_kind (finds_field_kind mirrors found name) fun actual between same => ?_) conforms_kind.symm
    exact decides_throw same.registry _ id
  | schema schema =>
    refine decides_inner (finds_field mirrors found name) (fun table inner between same found => ?_) fun value between same => ?_
    · exact decides_table (same.mirrors mirrors) found path schema
    · exact decides_throw same.registry _ id

end

/-! ### Arguments -/

theorem decides_argumentType (mirrors : scene.Mirrors heap) (value : Raw) (type : ParameterType) :
    (argumentType value type).Decides runner site scene (type.Conforms heap value) := by
  cases type with
  | kind wanted =>
    refine Decides.of_iff (decides_kind (Act.finds_kind mirrors.registry value) fun actual between same => ?_) conforms_kind.symm
    exact decides_throw same.registry _ id
  | schema schema =>
    refine decides_inner (Act.finds_ofRaw mirrors.registry value) (fun table inner between same found => ?_) fun value between same => ?_
    · exact decides_table (same.mirrors mirrors) found "" schema
    · exact decides_throw same.registry _ id

theorem decides_anyArgumentType (mirrors : scene.Mirrors heap) (value : Raw) (types : List ParameterType) :
    (anyArgumentType value types).Finds runner site scene fun result _ =>
      ∃ accepted, result = .ok accepted ∧ (accepted = true ↔ ∃ type ∈ types, type.Conforms heap value) := by
  induction types generalizing scene with
  | nil => exact finds_settle mirrors.registry ⟨false, rfl, by simp⟩
  | cons type rest ih =>
    refine decides_first (decides_argumentType mirrors value type) fun between same => ih (same.mirrors mirrors)

theorem decides_argument (mirrors : scene.Mirrors heap) (value : Raw) (parameter : Parameter) :
    (argument value parameter).Decides runner site scene (parameter.Conforms heap value) := by
  cases parameter with
  | specific type => exact (decides_argumentType mirrors value type).of_iff conforms_specific.symm
  | oneOf types =>
    have accepted : (anyArgumentType value types).Finds runner site scene _ := decides_anyArgumentType mirrors value types
    rw [← conforms_oneOf] at accepted
    refine decides_accepted accepted fun between same => ?_
    refine decides_refusal (Act.finds_kind same.registry value) fun actual after still => ?_
    exact decides_throw still.registry _ id
  | any => exact decides_return mirrors.registry (.any _)

end Check

/-- Arguments and fields are accepted if they conform, whatever the path is that messages name, as long as no
table has a metatable. The order of alternatives and fields that are not declared do not matter. -/
theorem checks_decide_conformance {scene : Scene} (valid : scene.interpreter.registry.Valid)
    (plain : scene.interpreter.heap.IsPlain) (runner : Runner) (site : Site) (parameter : Parameter) :
    (∀ value, (Check.argument value parameter).Decides runner site scene (parameter.Conforms scene.interpreter.heap value)) ∧
    (∀ handle table, scene.resolve handle = .ok (.table table) → ∀ name path,
      (Check.checkField handle name path parameter).Decides runner site scene
        (parameter.Conforms scene.interpreter.heap (scene.interpreter.heap.field table name))) ∧
    (∀ other value, parameter.Reordered other →
      (parameter.Conforms scene.interpreter.heap value ↔ other.Conforms scene.interpreter.heap value)) ∧
    (∀ (other : Heap) value,
      (∀ table name, parameter.Declares name → other.field table name = scene.interpreter.heap.field table name) →
      (parameter.Conforms scene.interpreter.heap value ↔ parameter.Conforms other value)) := by
  have mirrors : scene.Mirrors scene.interpreter.heap := ⟨valid, plain, .refl _⟩
  refine ⟨fun value => ?argument, fun handle table found name path => ?field, fun other value reordered => ?reordered,
    fun other value agree => ?undeclared⟩
  case argument => exact Check.decides_argument mirrors value parameter
  case field => exact Check.decides_checkField mirrors found name path parameter
  case reordered => exact conforms_reordered parameter reordered value
  case undeclared =>
    constructor
    · exact fun conforms => conforms_undeclared conforms agree
    · exact fun conforms => conforms_undeclared conforms fun table name declared => (agree table name declared).symm

/-- A table that is its own field `next` conforms to a schema with such a field, however deep it is looked into. -/
theorem checks_decide_conformance_cycle : ∃ (scene : Scene) (handle : Handle) (parameter : Parameter),
    scene.interpreter.registry.Valid ∧ scene.interpreter.heap.IsPlain ∧ scene.resolve handle = .ok (.table ⟨0⟩) ∧
    scene.interpreter.heap.field ⟨0⟩ "next" = .table ⟨0⟩ ∧ parameter.Conforms scene.interpreter.heap (.table ⟨0⟩) ∧
    (Check.argument (.table ⟨0⟩) parameter).Decides (fun _ _ => none) .host scene True ∧
    (Check.checkField handle "next" "options" parameter).Decides (fun _ _ => none) .host scene True := by
  let object := (TableObject.empty 0 1).set (.ofString "next") (.table ⟨0⟩)
  let start : Scene := ⟨⟨0⟩, ⟨⟨#[object], #[], #[], 0, .empty, []⟩, [], .empty⟩, .initial .blank, []⟩
  let scene := start.register (.table ⟨0⟩)
  let inner : ParameterType := .schema (.mk [("next", .ofKind .table), ("name", .optional (.kind .string))])
  let parameter : Parameter := .specific (.schema (.mk [("next", .specific inner)]))
  have valid : scene.interpreter.registry.Valid := Registry.empty_valid.register _
  have plain : scene.interpreter.heap.IsPlain := by
    rintro ⟨place⟩
    cases place <;> rfl
  have found : scene.resolve ⟨⟨⟨0⟩, 0⟩, 0⟩ = .ok (.table ⟨0⟩) := rfl
  have next : scene.interpreter.heap.field ⟨0⟩ "next" = .table ⟨0⟩ := by decide +kernel
  have absent : scene.interpreter.heap.field ⟨0⟩ "name" = .nil := by decide +kernel
  have deep : inner.Conforms scene.interpreter.heap (.table ⟨0⟩) := by
    refine conforms_schema.mpr ?_
    simp only [List.mem_cons, List.not_mem_nil, or_false, Prod.mk.injEq]
    rintro name parameter (⟨rfl, rfl⟩ | ⟨rfl, rfl⟩)
    · exact conforms_specific.mpr (.kind (congrArg kindOf next))
    · exact conforms_oneOf.mpr ⟨.kind .nil, List.mem_cons_self .., .kind (congrArg kindOf absent)⟩
  have conforms : parameter.Conforms scene.interpreter.heap (.table ⟨0⟩) := by
    refine conforms_specific.mpr (conforms_schema.mpr ?_)
    simp only [List.mem_cons, List.not_mem_nil, or_false, Prod.mk.injEq]
    rintro name parameter ⟨rfl, rfl⟩
    rw [next]
    exact conforms_specific.mpr deep
  obtain ⟨arguments, fields, -, -⟩ := checks_decide_conformance valid plain (fun _ _ => none) .host parameter
  refine ⟨scene, ⟨⟨⟨0⟩, 0⟩, 0⟩, parameter, valid, plain, found, next, conforms, ?_, ?_⟩
  · exact (arguments (.table ⟨0⟩)).of_iff (iff_true_intro conforms)
  · refine (fields _ _ found "next" "options").of_iff (iff_true_intro ?_)
    rw [next]
    exact conforms

end TileScript.Bridge
