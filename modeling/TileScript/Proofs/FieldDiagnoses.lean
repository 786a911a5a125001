import Mathlib.Logic.ExistsUnique
import Mathlib.Logic.Relation
import TileScript.Proofs.Conformance

/-! What a check says of a table that does not conform. It names one field, the first that does not fit in the order
of the schema, by the names that lead from the argument to it. -/

namespace TileScript.Bridge
open Script Attempt

/-! ### The first field that does not fit -/

/-- What is said of a field: where it is, what it should have been and what it is. -/
structure Diagnosis where
  path : List String
  expected : String
  actual : Kind

namespace Diagnosis

def text (diagnosis : Diagnosis) : String :=
  "expected " ++ diagnosis.expected ++ " for field '" ++ ".".intercalate diagnosis.path ++ "', but got " ++ diagnosis.actual.name

/-- The same, said of a table that contains the one it was said of. -/
def below (above : List String) (diagnosis : Diagnosis) : Diagnosis := { diagnosis with path := above ++ diagnosis.path }

theorem below_below (above path : List String) (diagnosis : Diagnosis) :
    (diagnosis.below path).below above = diagnosis.below (above ++ path) := by
  simp [below]

end Diagnosis

variable {heap : Heap}

/-- What is wrong with a value first: the value itself, or the first field of a table that does not conform. No choice
is looked into. -/
inductive Parameter.Fails (heap : Heap) : Parameter → Raw → Diagnosis → Prop where
  | kind {wanted actual : Kind} {value : Raw} : kindOf value = .ok actual → actual ≠ wanted →
    Parameter.Fails heap (.specific (.kind wanted)) value ⟨[], (ParameterType.kind wanted).describe, actual⟩
  | noTable {schema : TableSchema} {actual : Kind} {value : Raw} : kindOf value = .ok actual → actual ≠ .table →
    Parameter.Fails heap (.specific (.schema schema)) value ⟨[], "a table", actual⟩
  | choice {types : List ParameterType} {actual : Kind} {value : Raw} :
    ¬ (Parameter.oneOf types).Conforms heap value → kindOf value = .ok actual →
    Parameter.Fails heap (.oneOf types) value ⟨[], (Parameter.oneOf types).describe, actual⟩
  | field {before after : List (String × Parameter)} {name : String} {parameter : Parameter} {table : TableRef}
    {diagnosis : Diagnosis} :
    (∀ name parameter, (name, parameter) ∈ before → parameter.Conforms heap (heap.field table name)) →
    Parameter.Fails heap parameter (heap.field table name) diagnosis →
    Parameter.Fails heap (.specific (.schema (.mk (before ++ (name, parameter) :: after)))) (.table table) (diagnosis.below [name])

variable {parameter : Parameter} {value : Raw} {diagnosis : Diagnosis}

theorem Parameter.Fails.unfit (fails : parameter.Fails heap value diagnosis) : ¬ parameter.Conforms heap value := by
  induction fails with
  | kind known other =>
    intro conforms
    have same := conforms_kind.mp (conforms_specific.mp conforms)
    exact other (Except.ok.inj (known.symm.trans same))
  | noTable known other =>
    intro conforms
    obtain ⟨table, rfl⟩ := (conforms_specific.mp conforms).is_table
    exact other (Except.ok.inj known).symm
  | choice unfit _ => exact unfit
  | field _ _ ih =>
    intro conforms
    exact ih (conforms_schema.mp (conforms_specific.mp conforms) _ _ (by simp))

theorem first_unfit {α : Type} {fits : α → Prop} {before after others rest : List α} {first second : α}
    (same : before ++ first :: after = others ++ second :: rest) (early : ∀ a ∈ before, fits a) (late : ∀ a ∈ others, fits a)
    (unfit : ¬ fits first) (bad : ¬ fits second) : first = second := by
  induction before generalizing others with
  | nil =>
    cases others with
    | nil => exact List.head_eq_of_cons_eq same
    | cons a others =>
      obtain rfl := List.head_eq_of_cons_eq same
      exact absurd (late _ (List.mem_cons_self ..)) unfit
  | cons a before ih =>
    cases others with
    | nil =>
      obtain rfl := List.head_eq_of_cons_eq same
      exact absurd (early _ (List.mem_cons_self ..)) bad
    | cons b others =>
      exact ih (List.tail_eq_of_cons_eq same) (List.forall_mem_cons.mp early).2 (List.forall_mem_cons.mp late).2

theorem Parameter.Fails.unique {other : Diagnosis} (fails : parameter.Fails heap value diagnosis)
    (again : parameter.Fails heap value other) : diagnosis = other := by
  induction fails generalizing other with
  | kind known _ =>
    cases again with
    | kind found _ => rw [Except.ok.inj (known.symm.trans found)]
  | noTable known apart =>
    cases again with
    | noTable found _ => rw [Except.ok.inj (known.symm.trans found)]
    | field _ _ => exact absurd (Except.ok.inj known).symm apart
  | choice _ known =>
    cases again with
    | choice _ found => rw [Except.ok.inj (known.symm.trans found)]
  | @field before after name parameter table diagnosis early fails ih =>
    generalize whole : before ++ (name, parameter) :: after = fields at again
    cases again with
    | noTable found apart => exact absurd (Except.ok.inj found).symm apart
    | @field others rest second asked _ later late unfit =>
      have early : ∀ field ∈ before, field.2.Conforms heap (heap.field table field.1) := fun field => early field.1 field.2
      have late : ∀ field ∈ others, field.2.Conforms heap (heap.field table field.1) := fun field => late field.1 field.2
      have same : (name, parameter) = (second, asked) := first_unfit whole early late fails.unfit unfit.unfit
      obtain ⟨rfl, rfl⟩ := Prod.mk.inj same
      rw [ih unfit]

theorem Parameter.Fails.cons {fields : List (String × Parameter)} {name : String} {table : TableRef}
    (fits : parameter.Conforms heap (heap.field table name))
    (fails : (Parameter.specific (.schema (.mk fields))).Fails heap (.table table) diagnosis) :
    (Parameter.specific (.schema (.mk ((name, parameter) :: fields)))).Fails heap (.table table) diagnosis := by
  cases fails with
  | noTable found apart => exact absurd (Except.ok.inj found).symm apart
  | @field before after _ _ _ _ early fails =>
    refine @Parameter.Fails.field heap ((name, parameter) :: before) after _ _ _ _ (fun other asked member => ?_) fails
    rcases List.mem_cons.mp member with same | later
    · obtain ⟨rfl, rfl⟩ := Prod.mk.inj same
      exact fits
    · exact early other asked later

theorem conforms_cons {fields : List (String × Parameter)} {name : String} {table : TableRef} :
    (Parameter.specific (.schema (.mk ((name, parameter) :: fields)))).Conforms heap (.table table) ↔
      parameter.Conforms heap (heap.field table name) ∧ (Parameter.specific (.schema (.mk fields))).Conforms heap (.table table) := by
  simp [conforms_specific, conforms_schema, or_imp, forall_and]

theorem declares_schema {fields : List (String × Parameter)} {name : String} :
    (ParameterType.schema (.mk fields)).Declares name ↔ ∃ field ∈ fields, field.1 = name ∨ field.2.Declares name := by
  constructor
  · rintro (member | ⟨member, declared⟩)
    · exact ⟨_, member, .inl rfl⟩
    · exact ⟨_, member, .inr declared⟩
  · rintro ⟨⟨other, parameter⟩, member, rfl | declared⟩
    · exact .field member
    · exact .within member declared

theorem declares_specific {type : ParameterType} {name : String} :
    (Parameter.specific type).Declares name ↔ type.Declares name := by
  constructor
  · rintro ⟨declared⟩
    assumption
  · exact .specific

theorem declares_ofKind {kind : Kind} {name : String} : ¬ (Parameter.ofKind kind).Declares name := by
  rintro ⟨⟨⟩⟩

theorem ParameterType.Declares.cons {fields : List (String × Parameter)} {field : String × Parameter} {name : String}
    (declared : (ParameterType.schema (.mk fields)).Declares name) : (ParameterType.schema (.mk (field :: fields))).Declares name := by
  obtain ⟨declaring, member, known⟩ := declares_schema.mp declared
  exact declares_schema.mpr ⟨declaring, List.mem_cons_of_mem _ member, known⟩

/-! ### Tables that the host can read -/

/-- A field of the outer table holds the inner one. -/
def Encloses (heap : Heap) (outer inner : TableRef) : Prop := ∃ name, heap.field outer name = .table inner

/-- The host knows the kinds of all fields of the table, and of all tables that are reached from it. -/
def Legible (heap : Heap) (table : TableRef) : Prop :=
  ∀ inner, Relation.ReflTransGen (Encloses heap) table inner → ∀ name, ∃ kind, kindOf (heap.field inner name) = .ok kind

variable {table : TableRef}

theorem Legible.kind (legible : Legible heap table) (name : String) : ∃ kind, kindOf (heap.field table name) = .ok kind :=
  legible table .refl name

theorem Legible.inner (legible : Legible heap table) {name : String} {inner : TableRef}
    (held : heap.field table name = .table inner) : Legible heap inner :=
  fun deeper reached => legible deeper (.head ⟨name, held⟩ reached)

/-! ### What checks say -/

namespace Check

variable {runner : Runner} {site : Site} {scene : Scene} {handle : Handle}

/-- Only the argument itself has an empty path. -/
theorem isEmpty_intercalate {above : List String} (named : "" ∉ above) (inside : above ≠ []) :
    (".".intercalate above).isEmpty = false := by
  obtain ⟨first, rest, rfl⟩ := List.exists_cons_of_ne_nil inside
  have given : first ≠ "" := fun empty => named (empty ▸ List.mem_cons_self ..)
  cases rest <;> simp [String.intercalate_cons_cons, given]

theorem below_intercalate {above : List String} (named : "" ∉ above) (name : String) :
    below (".".intercalate above) name = ".".intercalate (above ++ [name]) := by
  by_cases inside : above = []
  · subst inside
    simp [below]
  · rw [below, isEmpty_intercalate named inside, String.intercalate_append_of_ne_nil inside (by simp),
      String.intercalate_singleton]
    rfl

/-- A check that accepts what conforms, and otherwise says what is wrong first, below a path. -/
def Explains (check : Check) (runner : Runner) (site : Site) (scene : Scene) (heap : Heap) (above : List String)
    (parameter : Parameter) (value : Raw) : Prop :=
  check.Finds runner site scene fun result _ =>
    match result with
    | .ok _ => parameter.Conforms heap value
    | .error message => ∃ diagnosis, parameter.Fails heap value diagnosis ∧ message = (diagnosis.below above).text

theorem explains_expectedField {above : List String} {what : String} {actual : Kind} (valid : scene.interpreter.registry.Valid)
    (fails : parameter.Fails heap value ⟨[], what, actual⟩) :
    Explains (expectedField what (".".intercalate above) actual) runner site scene heap above parameter value :=
  finds_settle valid ⟨_, fails, by simp [Diagnosis.text, Diagnosis.below]⟩

/-- A kind that is known is found out, and what comes next says what there is to say. -/
theorem explains_known {act : Act Kind} {raw : Raw} {kind : Kind} {next : Kind → Check} {above : List String}
    (finds : act.Finds runner site scene fun result _ => result = (kindOf raw).mapError Error.unsupported)
    (known : kindOf raw = .ok kind)
    (explains : ∀ between, scene.Unaltered between → (next kind).Explains runner site between heap above parameter value) :
    Explains (do next (← answer act)) runner site scene heap above parameter value := by
  rw [known] at finds
  refine (finds_answer finds).bind (fun actual between same found => ?_) fun message between found => ?_
  · obtain ⟨_, shown, rfl⟩ := found
    obtain rfl := Except.ok.inj shown
    exact explains between same
  · obtain ⟨_, shown, rfl⟩ := found
    cases shown

/-- A value that the host can read is read, and a table among them gone into. -/
theorem finds_readable {act : Act Value} {raw : Raw} {kind : Kind} {check : Handle → Check} {refuse : Value → Check}
    {post : Except String Unit → Scene → Prop}
    (finds : act.Finds runner site scene fun result after =>
      match result with
      | .ok value => after.Shows raw value
      | .error _ => ∃ foreign, kindOf raw = .error foreign)
    (known : kindOf raw = .ok kind)
    (tables : ∀ table inner between, scene.Unaltered between → raw = .table table → between.resolve inner = .ok (.table table) →
      (check inner).Finds runner site between post)
    (others : ∀ value between, scene.Unaltered between → kindOf raw = .ok value.kind → value.kind ≠ .table →
      (refuse value).Finds runner site between post) :
    Attempt.Finds (do match ← answer act with | .table inner => check inner | other => refuse other) runner site scene post := by
  refine (finds_answer finds).bind (fun value between same seen => ?_) fun _ _ failed => ?_
  · obtain ⟨read, shown, seen⟩ := seen
    cases read with
    | error _ => cases shown
    | ok read =>
      cases shown
      cases seen with
      | table table found _ => exact tables table _ between same rfl found
      | nil | boolean _ | integer _ | number _ | string _ | function _ _ _ => exact others _ between same rfl nofun
  · obtain ⟨read, shown, seen⟩ := failed
    cases read with
    | ok _ => cases shown
    | error _ =>
      obtain ⟨foreign, unknown⟩ := seen
      cases known.symm.trans unknown

mutual

theorem explains_checkFields {scene : Scene} {handle : Handle} {table : TableRef} (mirrors : scene.Mirrors heap)
    (found : scene.resolve handle = .ok (.table table)) (legible : Legible heap table)
    {above : List String} (named : "" ∉ above) (fields : List (String × Parameter))
    (undeclared : ¬ (ParameterType.schema (.mk fields)).Declares "") :
    (checkFields handle (".".intercalate above) fields).Explains runner site scene heap above
      (.specific (.schema (.mk fields))) (.table table) := by
  cases fields with
  | nil => exact finds_settle mirrors.registry (conforms_specific.mpr (conforms_schema.mpr (by simp)))
  | cons field rest =>
    obtain ⟨name, parameter⟩ := field
    have given : name ≠ "" := by
      rintro rfl
      exact undeclared (.field (List.mem_cons_self ..))
    have first := explains_checkField mirrors found legible named name given parameter
      fun declared => undeclared (.within (List.mem_cons_self ..) declared)
    rw [checkFields, below_intercalate named]
    refine Finds.bind first (fun _ between same fits => ?_) fun message _ explained => ?_
    · have others := explains_checkFields (same.mirrors mirrors) (same.grows.resolve found) legible named rest
        fun declared => undeclared declared.cons
      refine Finds.weaken others fun result _ explained => ?_
      cases result with
      | ok _ => exact conforms_cons.mpr ⟨fits, explained⟩
      | error message =>
        obtain ⟨diagnosis, fails, said⟩ := explained
        exact ⟨diagnosis, fails.cons fits, said⟩
    · obtain ⟨diagnosis, fails, rfl⟩ := explained
      exact ⟨diagnosis.below [name], @Parameter.Fails.field heap [] rest _ _ _ _ nofun fails,
        congrArg Diagnosis.text (diagnosis.below_below above [name]).symm⟩

theorem explains_checkField {scene : Scene} {handle : Handle} {table : TableRef} (mirrors : scene.Mirrors heap)
    (found : scene.resolve handle = .ok (.table table)) (legible : Legible heap table)
    {above : List String} (named : "" ∉ above) (name : String) (given : name ≠ "") (parameter : Parameter)
    (undeclared : ¬ parameter.Declares "") :
    (checkField handle name (".".intercalate (above ++ [name])) parameter).Explains runner site scene heap (above ++ [name])
      parameter (heap.field table name) := by
  cases parameter with
  | specific type =>
    exact explains_checkFieldType mirrors found legible named name given type fun declared => undeclared (.specific declared)
  | oneOf types =>
    have accepted : (anyFieldType handle name _ types).Finds runner site scene _ :=
      decides_anyFieldType mirrors found name (".".intercalate (above ++ [name])) types
    rw [← conforms_oneOf] at accepted
    refine Finds.bind accepted (fun accepted between same decided => ?_) (by simp)
    obtain ⟨_, ⟨⟩, decided⟩ := decided
    split
    · next accepted => exact finds_settle same.registry (decided.mp accepted)
    · next rejected =>
      obtain ⟨kind, known⟩ := legible.kind name
      refine explains_known (finds_field_kind (same.mirrors mirrors) (same.grows.resolve found) name) known fun after still => ?_
      exact explains_expectedField still.registry (.choice (fun conforms => rejected (decided.mpr conforms)) known)
  | any => exact finds_settle mirrors.registry (.any _)

theorem explains_checkFieldType {scene : Scene} {handle : Handle} {table : TableRef} (mirrors : scene.Mirrors heap)
    (found : scene.resolve handle = .ok (.table table)) (legible : Legible heap table)
    {above : List String} (named : "" ∉ above) (name : String) (given : name ≠ "") (type : ParameterType)
    (undeclared : ¬ type.Declares "") :
    (checkFieldType handle name (".".intercalate (above ++ [name])) type).Explains runner site scene heap (above ++ [name])
      (.specific type) (heap.field table name) := by
  obtain ⟨kind, known⟩ := legible.kind name
  cases type with
  | kind wanted =>
    refine explains_known (finds_field_kind mirrors found name) known fun between same => ?_
    split
    · next other => exact explains_expectedField same.registry (.kind known other)
    · next agrees =>
      have right : kindOf (heap.field table name) = .ok wanted := by simpa [known] using agrees
      exact finds_settle same.registry (conforms_specific.mpr (conforms_kind.mpr right))
  | schema schema =>
    cases schema with
    | mk fields =>
      have longer : "" ∉ above ++ [name] := by simp [named, Ne.symm given]
      refine finds_readable (finds_field mirrors found name) known (fun inner handle between same held found => ?_)
        fun value between same seen other => explains_expectedField same.registry (.noTable seen other)
      -- Below the argument the path is not empty, so the inner table adds no schema of its own.
      rw [held, Check.table, isEmpty_intercalate longer (by simp)]
      exact explains_checkFields (same.mirrors mirrors) found (legible.inner held) longer fields undeclared

end

theorem explains_argument (mirrors : scene.Mirrors heap) {table : TableRef} (legible : Legible heap table) (schema : TableSchema)
    (undeclared : ¬ (ParameterType.schema schema).Declares "") :
    (argument (.table table) (.specific (.schema schema))).Finds runner site scene fun result _ =>
      match result with
      | .ok _ => (Parameter.specific (.schema schema)).Conforms heap (.table table)
      | .error message => ∃ diagnosis, (Parameter.specific (.schema schema)).Fails heap (.table table) diagnosis ∧
        message = diagnosis.text ++ ". Required schema for the table: " ++ schema.describe := by
  refine finds_readable (Act.finds_ofRaw mirrors.registry (.table table)) rfl (fun inner handle between same held found => ?_)
    fun value between same seen other => absurd (Except.ok.inj seen).symm other
  obtain rfl := Raw.table.inj held
  cases schema with
  | mk fields =>
    have explained : (checkFields handle "" fields).Explains runner site between heap [] _ _ :=
      explains_checkFields (same.mirrors mirrors) found legible List.not_mem_nil fields undeclared
    refine Finds.mapError explained _ fun result _ explained => ?_
    cases result with
    | ok _ => exact explained
    | error message =>
      obtain ⟨diagnosis, fails, rfl⟩ := explained
      exact ⟨diagnosis, fails, rfl⟩

end Check

/-- A check of a table accepts what conforms. Otherwise it names the first field that does not fit, in the order of the
schema and into the tables that fields have to be, by the names from the argument down to it; it says what the field
should have been and what it is, and repeats the schema of the argument once, however deep the field is. -/
theorem diagnosis_of_table {scene : Scene} (valid : scene.interpreter.registry.Valid)
    (plain : scene.interpreter.heap.IsPlain) {table : TableRef} (legible : Legible scene.interpreter.heap table)
    {schema : TableSchema} (named : ¬ (ParameterType.schema schema).Declares "") (runner : Runner) (site : Site) :
    (Check.argument (.table table) (.specific (.schema schema))).Finds runner site scene fun result _ =>
      match result with
      | .ok _ => (Parameter.specific (.schema schema)).Conforms scene.interpreter.heap (.table table)
      | .error message => ∃! diagnosis,
        (Parameter.specific (.schema schema)).Fails scene.interpreter.heap (.table table) diagnosis ∧
        message = diagnosis.text ++ ". Required schema for the table: " ++ schema.describe := by
  refine (Check.explains_argument ⟨valid, plain, .refl _⟩ legible schema named).weaken fun result _ explained => ?_
  cases result with
  | ok _ => exact explained
  | error message =>
    obtain ⟨diagnosis, fails, said⟩ := explained
    exact ⟨diagnosis, ⟨fails, said⟩, fun other again => again.1.unique fails⟩

/-- A size without a height. -/
theorem diagnosis_of_table_size : ∃ (scene : Scene) (schema : TableSchema),
    scene.interpreter.registry.Valid ∧ scene.interpreter.heap.IsPlain ∧ Legible scene.interpreter.heap ⟨0⟩ ∧
    ¬ (ParameterType.schema schema).Declares "" ∧
    (Check.argument (.table ⟨0⟩) (.specific (.schema schema))).Finds (fun _ _ => none) .host scene fun result _ =>
      result = .error ("expected number for field 'size.height', but got nil. Required schema for the table: " ++
        "\x7b size: \x7b width: number, height: number \x7d, name: string \x7d") := by
  let outer := (TableObject.empty 0 1).set (.ofString "size") (.table ⟨1⟩)
  let inner := (TableObject.empty 0 1).set (.ofString "width") (.integer 1)
  let scene : Scene := ⟨⟨0⟩, ⟨⟨#[outer, inner], #[], #[], 0, .empty, []⟩, [], .empty⟩, .initial .blank, []⟩
  let sizes : List (String × Parameter) := [("width", .ofKind .number), ("height", .ofKind .number)]
  let schema : TableSchema := .mk [("size", .specific (.schema (.mk sizes))), ("name", .ofKind .string)]
  have valid : scene.interpreter.registry.Valid := Registry.empty_valid
  have plain : scene.interpreter.heap.IsPlain := by
    rintro ⟨place⟩
    rcases place with _ | _ | place <;> rfl
  have legible : Legible scene.interpreter.heap ⟨0⟩ := by
    rintro ⟨place⟩ - name
    have first : (scene.interpreter.heap.field ⟨0⟩ name) = if Raw.ofString name = .ofString "size" then .table ⟨1⟩ else .nil :=
      TableObject.get_set_ofString (.empty 0 1) "size" (.table ⟨1⟩) (.ofString name)
    have second : (scene.interpreter.heap.field ⟨1⟩ name) = if Raw.ofString name = .ofString "width" then .integer 1 else .nil :=
      TableObject.get_set_ofString (.empty 0 1) "width" (.integer 1) (.ofString name)
    rcases place with _ | _ | place
    · rw [first]
      split <;> exact ⟨_, rfl⟩
    · rw [second]
      split <;> exact ⟨_, rfl⟩
    · exact ⟨.nil, rfl⟩
  have undeclared : ¬ (ParameterType.schema schema).Declares "" := by
    simp [schema, sizes, declares_schema, declares_specific, declares_ofKind]
  have size : scene.interpreter.heap.field ⟨0⟩ "size" = .table ⟨1⟩ := by decide +kernel
  have width : scene.interpreter.heap.field ⟨1⟩ "width" = .integer 1 := by decide +kernel
  have height : scene.interpreter.heap.field ⟨1⟩ "height" = .nil := by decide +kernel
  have missing : (Parameter.ofKind .number).Fails scene.interpreter.heap (scene.interpreter.heap.field ⟨1⟩ "height")
      ⟨[], "number", .nil⟩ := .kind (congrArg kindOf height) nofun
  have fails : (Parameter.specific (.schema schema)).Fails scene.interpreter.heap (.table ⟨0⟩)
      ⟨["size", "height"], "number", .nil⟩ := by
    refine @Parameter.Fails.field _ [] _ "size" _ _ ⟨["height"], "number", .nil⟩ nofun ?_
    rw [size]
    refine @Parameter.Fails.field _ [("width", .ofKind .number)] [] "height" _ _ ⟨[], "number", .nil⟩ ?_ missing
    intro name parameter member
    obtain ⟨rfl, rfl⟩ := Prod.mk.inj (List.mem_singleton.mp member)
    exact .specific (.kind (congrArg kindOf width))
  refine ⟨scene, schema, valid, plain, legible, undeclared, ?_⟩
  refine (diagnosis_of_table valid plain legible undeclared (fun _ _ => none) .host).weaken fun result _ explained => ?_
  cases result with
  | ok _ => exact absurd explained fails.unfit
  | error message =>
    obtain ⟨diagnosis, ⟨found, said⟩, -⟩ := explained
    rw [said, found.unique fails]
    decide +kernel

end TileScript.Bridge
