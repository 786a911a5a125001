import TileScript.Bridge.Check
import TileScript.Proofs.Undisturbed

/-! What is known of arguments once they have been checked. A check of kinds looks at nothing but the
arguments; a check of options also looks into their table. -/

namespace TileScript.Bridge
open Script Attempt

/-! ### Signatures -/

def ParameterType.IsKind : ParameterType → Prop
  | .kind _ => True
  | .schema _ => False

/-- No schema of a table is part of the parameter. -/
def Parameter.IsFlat : Parameter → Prop
  | .specific type => type.IsKind
  | .oneOf types => ∀ type ∈ types, type.IsKind
  | .any => True

def Argument.IsFlat : Argument → Prop
  | .fixed parameter | .variadic parameter => parameter.IsFlat

def ParameterType.Fits (raw : Raw) : ParameterType → Prop
  | .kind wanted => kindOf raw = .ok wanted
  | .schema _ => ∃ table, raw = .table table

/-- The kind of an argument is one that the parameter names. Of a table nothing more is said. -/
def Parameter.Fits (raw : Raw) : Parameter → Prop
  | .specific type => type.Fits raw
  | .oneOf types => ∃ type ∈ types, type.Fits raw
  | .any => True

theorem Parameter.eq_nil_or_fits {raw : Raw} {type : ParameterType} (fits : (optional type).Fits raw) :
    raw = .nil ∨ type.Fits raw := by
  obtain ⟨other, member, known⟩ := fits
  simp only [List.mem_cons, List.not_mem_nil, or_false] at member
  rcases member with rfl | rfl
  · cases raw with
    | nil => exact .inl rfl
    | boolean _ | integer _ | number _ | string _ | table _ | function _ | thread _ | file | failure _ _ => cases known
  · exact .inr known

/-- The parameters, in their order, take up all arguments. -/
def Accepts : List Argument → List Raw → Prop
  | [], raws => raws = []
  | .fixed parameter :: rest, raws => ∃ raw later, raws = raw :: later ∧ parameter.Fits raw ∧ Accepts rest later
  | .variadic parameter :: rest, raws => ∃ taken later, raws = taken ++ later ∧
      (∀ raw ∈ taken, parameter.Fits raw) ∧ Accepts rest later

/-- One argument of a sort and any number of others. -/
theorem Accepts.fits {parameter : Parameter} {raws : List Raw} (accepted : Accepts [.fixed parameter, .variadic parameter] raws) :
    ∀ raw ∈ raws, parameter.Fits raw := by
  obtain ⟨first, _, rfl, fits, taken, _, rfl, others, rfl⟩ := accepted
  rw [List.append_nil]
  exact List.forall_mem_cons.mpr ⟨fits, others⟩

namespace Check

variable {runner : Runner} {site : Site} {scene : Scene}

theorem sees_accepts {check : Check} {fits : Prop}
    (looks : check.Sees runner site scene fun _ _ => fits) :
    (accepts check).Sees runner site scene fun accepted _ => accepted = true → fits := by
  refine looks.observe.bind fun observed between calm known => ?_
  cases observed with
  | ok _ => exact sees_pure calm.registry fun _ => known () rfl
  | error _ => exact sees_pure calm.registry fun impossible => Bool.noConfusion impossible

theorem sees_answer {α : Type} {act : Act α} {post : α → Scene → Prop} (looks : act.Sees runner site scene post) :
    (answer act).Sees runner site scene post := looks.mapError _

/-! ### Options -/

section Options

variable {handle : Handle} {table : TableRef}

theorem sees_checkFieldType (valid : scene.interpreter.registry.Valid) (known : scene.IsBare handle table)
    (name field : String) {type : ParameterType} (flat : type.IsKind) :
    (checkFieldType handle name field type).Sees runner site scene fun _ _ =>
      type.Fits (scene.interpreter.heap.field table name) := by
  cases type with
  | schema _ => exact flat.elim
  | kind wanted =>
    rw [checkFieldType]
    refine (sees_answer (Table.sees_fieldKind valid known name)).bind fun actual between calm found => ?_
    split
    · exact sees_throw calm.registry _
    · next same => exact sees_pure calm.registry (Classical.not_not.mp same ▸ found)

theorem sees_anyFieldType (valid : scene.interpreter.registry.Valid) (known : scene.IsBare handle table)
    (name field : String) {types : List ParameterType} (flat : ∀ type ∈ types, type.IsKind) :
    (anyFieldType handle name field types).Sees runner site scene fun accepted _ => accepted = true →
      ∃ type ∈ types, type.Fits (scene.interpreter.heap.field table name) := by
  induction types generalizing scene with
  | nil =>
    rw [anyFieldType]
    exact sees_pure valid fun impossible => Bool.noConfusion impossible
  | cons type rest ih =>
    rw [anyFieldType]
    have first : (checkFieldType handle name field type).Sees runner site scene _ :=
      sees_checkFieldType valid known name field (flat type (List.mem_cons_self ..))
    refine (sees_accepts first).bind fun accepted between calm fits => ?_
    split
    · next accepted => exact sees_pure calm.registry fun _ => ⟨type, List.mem_cons_self .., fits accepted⟩
    · have others := ih calm.registry (calm.isBare known) fun other member => flat other (List.mem_cons_of_mem _ member)
      refine others.weaken fun found _ known accepted => ?_
      obtain ⟨other, member, fits⟩ := known accepted
      rw [calm.reads.field] at fits
      exact ⟨other, List.mem_cons_of_mem _ member, fits⟩

theorem sees_checkField (valid : scene.interpreter.registry.Valid) (known : scene.IsBare handle table)
    (name field : String) {parameter : Parameter} (flat : parameter.IsFlat) :
    (checkField handle name field parameter).Sees runner site scene fun _ _ =>
      parameter.Fits (scene.interpreter.heap.field table name) := by
  cases parameter with
  | specific type =>
    rw [checkField]
    exact sees_checkFieldType valid known name field flat
  | oneOf types =>
    rw [checkField]
    refine (sees_anyFieldType valid known name field flat).bind fun accepted between calm fits => ?_
    split
    · next accepted => exact sees_pure calm.registry (fits accepted)
    · refine (sees_answer (Table.sees_fieldKind calm.registry (calm.isBare known) name)).bind fun actual after later _ => ?_
      exact sees_throw later.registry _
  | any =>
    rw [checkField]
    exact sees_pure valid trivial

theorem sees_checkFields (valid : scene.interpreter.registry.Valid) (known : scene.IsBare handle table) (path : String)
    {fields : List (String × Parameter)} (flat : ∀ field ∈ fields, field.2.IsFlat) :
    (checkFields handle path fields).Sees runner site scene fun _ _ =>
      ∀ field ∈ fields, field.2.Fits (scene.interpreter.heap.field table field.1) := by
  induction fields generalizing scene with
  | nil =>
    rw [checkFields]
    exact sees_pure valid (by simp)
  | cons field rest ih =>
    rw [checkFields]
    refine (sees_checkField valid known field.1 _ (flat field (List.mem_cons_self ..))).bind fun _ between calm fits => ?_
    have others := ih calm.registry (calm.isBare known) fun other member => flat other (List.mem_cons_of_mem _ member)
    refine others.weaken fun _ _ later => List.forall_mem_cons.mpr ⟨fits, fun other member => ?_⟩
    have same := later other member
    rwa [calm.reads.field] at same

theorem sees_table (valid : scene.interpreter.registry.Valid) (known : scene.IsBare handle table) (path : String)
    {schema : TableSchema} (flat : ∀ field ∈ schema.fields, field.2.IsFlat) :
    (Check.table handle path schema).Sees runner site scene fun _ _ =>
      ∀ field ∈ schema.fields, field.2.Fits (scene.interpreter.heap.field table field.1) := by
  obtain ⟨fields⟩ := schema
  rw [Check.table]
  have checked : (checkFields handle path fields).Sees runner site scene _ := sees_checkFields valid known path flat
  split
  · exact checked.mapError _
  · exact checked

end Options

/-! ### Arguments -/

variable {raw : Raw}

theorem sees_argumentType (valid : scene.interpreter.registry.Valid) (raw : Raw) {type : ParameterType} (flat : type.IsKind) :
    (argumentType raw type).Sees runner site scene fun _ _ => type.Fits raw := by
  cases type with
  | schema _ => exact flat.elim
  | kind wanted =>
    refine (sees_answer (Act.sees_kind valid raw)).bind fun actual between calm found => ?_
    split
    · exact sees_throw calm.registry _
    · next same => exact sees_pure calm.registry (Classical.not_not.mp same ▸ found)

/-- The fields of options are of the kinds that their schema names. -/
def FitsOptions (heap : Heap) (schema : TableSchema) (raw : Raw) : Prop :=
  ∃ table, raw = .table table ∧ ∀ field ∈ schema.fields, field.2.Fits (heap.field table field.1)

theorem sees_options (valid : scene.interpreter.registry.Valid) {schema : TableSchema}
    (flat : ∀ field ∈ schema.fields, field.2.IsFlat)
    (bare : ∀ table, raw = .table table → (scene.interpreter.heap.table table).metatable = none) :
    (argument raw (.specific (.schema schema))).Sees runner site scene fun _ _ =>
      FitsOptions scene.interpreter.heap schema raw := by
  refine (sees_answer (Act.sees_ofRaw valid raw)).bind fun value between calm shown => ?_
  cases shown with
  | table table found object =>
    -- A metatable could have scripts run while fields are looked up.
    have known : between.IsBare _ table := ⟨found, (calm.metatables.same table).trans (bare table rfl)⟩
    refine (sees_table calm.registry known "" flat).weaken fun _ _ fits => ⟨table, rfl, fun field member => ?_⟩
    have same := fits field member
    rwa [calm.reads.field] at same
  | nil | boolean _ | integer _ | number _ | string _ | function _ _ _ => exact sees_throw calm.registry _

theorem sees_anyArgumentType (valid : scene.interpreter.registry.Valid) (raw : Raw) {types : List ParameterType}
    (flat : ∀ type ∈ types, type.IsKind) :
    (anyArgumentType raw types).Sees runner site scene fun accepted _ => accepted = true → ∃ type ∈ types, type.Fits raw := by
  induction types generalizing scene with
  | nil => exact sees_pure valid fun impossible => Bool.noConfusion impossible
  | cons type rest ih =>
    have first : (argumentType raw type).Sees runner site scene fun _ _ => type.Fits raw :=
      sees_argumentType valid raw (flat type (List.mem_cons_self ..))
    refine (sees_accepts first).bind fun accepted between calm fits => ?_
    split
    · next accepted => exact sees_pure calm.registry fun _ => ⟨type, List.mem_cons_self .., fits accepted⟩
    · have others := ih calm.registry fun other member => flat other (List.mem_cons_of_mem _ member)
      refine others.weaken fun found _ known accepted => ?_
      obtain ⟨other, member, fits⟩ := known accepted
      exact ⟨other, List.mem_cons_of_mem _ member, fits⟩

theorem sees_argument (valid : scene.interpreter.registry.Valid) (raw : Raw) {parameter : Parameter} (flat : parameter.IsFlat) :
    (argument raw parameter).Sees runner site scene fun _ _ => parameter.Fits raw := by
  cases parameter with
  | specific type => exact sees_argumentType valid raw flat
  | oneOf types =>
    refine (sees_anyArgumentType valid raw flat).bind fun accepted between calm fits => ?_
    split
    · next accepted => exact sees_pure calm.registry (fits accepted)
    · refine (sees_answer (Act.sees_kind calm.registry raw)).bind fun actual after later _ => ?_
      exact sees_throw later.registry _
  | any => exact sees_pure valid trivial

theorem sees_takeMatching (valid : scene.interpreter.registry.Valid) {parameter : Parameter} (flat : parameter.IsFlat)
    (isLast : Bool) (place : Nat) (raws : List Raw) :
    (takeMatching parameter isLast place raws).Sees runner site scene fun rest _ =>
      ∃ taken, raws = taken ++ rest.2 ∧ ∀ raw ∈ taken, parameter.Fits raw := by
  induction raws generalizing scene place with
  | nil => exact sees_pure valid ⟨[], rfl, by simp⟩
  | cons raw rest ih =>
    refine (sees_argument valid raw flat).observe.bind fun observed between calm fits => ?_
    cases observed with
    | ok _ =>
      refine (ih calm.registry (place + 1)).weaken fun left _ known => ?_
      obtain ⟨taken, parts, all⟩ := known
      refine ⟨raw :: taken, congrArg (raw :: ·) parts, ?_⟩
      intro other member
      rcases List.mem_cons.mp member with rfl | later
      · exact fits () rfl
      · exact all other later
    | error message =>
      -- What does not fit is left for the parameters after this one, if there are any.
      dsimp only
      split
      · exact sees_throw calm.registry _
      · exact sees_pure calm.registry ⟨[], rfl, by simp⟩

theorem sees_fromPlace (valid : scene.interpreter.registry.Valid) {signature : List Argument}
    (flat : ∀ argument ∈ signature, argument.IsFlat) (count place : Nat) (raws : List Raw) :
    (fromPlace count place raws signature).Sees runner site scene fun _ _ => Accepts signature raws := by
  induction signature generalizing scene place raws with
  | nil =>
    rw [fromPlace]
    split
    · next none => exact sees_pure valid (List.isEmpty_iff.mp none)
    · exact sees_throw valid _
  | cons first rest ih =>
    have others : ∀ argument ∈ rest, argument.IsFlat := fun argument member => flat argument (List.mem_cons_of_mem _ member)
    cases first with
    | fixed parameter =>
      cases raws with
      | nil => exact sees_throw valid _
      | cons raw later =>
        have own : parameter.IsFlat := flat (.fixed parameter) (List.mem_cons_self ..)
        refine ((sees_argument valid raw own).mapError _).bind fun _ between calm fits => ?_
        exact (ih calm.registry others (place + 1) later).weaken fun _ _ known => ⟨raw, later, rfl, fits, known⟩
    | variadic parameter =>
      have own : parameter.IsFlat := flat (.variadic parameter) (List.mem_cons_self ..)
      refine (sees_takeMatching valid own rest.isEmpty place raws).bind fun left between calm known => ?_
      obtain ⟨taken, parts, all⟩ := known
      exact (ih calm.registry others left.1 left.2).weaken fun _ _ known => ⟨taken, left.2, parts, all, known⟩

end Check

/-! ### What the window manager offers -/

theorem Api.windowOptions_isFlat : ∀ field ∈ Api.windowOptions.fields, field.2.IsFlat := by
  simp [Api.windowOptions, TableSchema.fields, Parameter.optional, Parameter.IsFlat, ParameterType.IsKind]

theorem Api.commandArguments_isFlat : ∀ argument ∈ Api.commandArguments, argument.IsFlat := by
  simp [Api.commandArguments, Api.commandParameter, Argument.IsFlat, Parameter.IsFlat, ParameterType.IsKind]

/-- Only the rules for windows take options. -/
theorem Api.arguments_isFlat {function : Api} (other : function ≠ .onWindowDetected) :
    ∀ argument ∈ function.arguments, argument.IsFlat := by
  cases function with
  | onWindowDetected => exact absurd rfl other
  | onFocusChanged | onMonitorChanged => exact Api.commandArguments_isFlat
  | bind =>
    intro argument member
    simp only [Api.arguments, List.mem_cons] at member
    rcases member with rfl | rfl | member
    · trivial
    · trivial
    · exact Api.commandArguments_isFlat argument member
  | command | activateMode | windowTitle | windowAppName | workspaceWindowCount | setGap | setting _ | unbind =>
    simp [Api.arguments, Argument.ofKind, Parameter.ofKind, Argument.IsFlat, Parameter.IsFlat, ParameterType.IsKind]

namespace Check

theorem sees_rule {runner : Runner} {site : Site} {scene : Scene} (valid : scene.interpreter.registry.Valid)
    (arguments : Arguments)
    (bare : ∀ table rest, arguments = .table table :: rest → (scene.interpreter.heap.table table).metatable = none) :
    (Check.arguments arguments Api.onWindowDetected.arguments).Sees runner site scene fun _ _ =>
      ∃ options rest, arguments = options :: rest ∧ FitsOptions scene.interpreter.heap Api.windowOptions options ∧
        Accepts Api.commandArguments rest := by
  cases arguments with
  | nil => exact sees_throw valid _
  | cons options rest =>
    have checked : (argument options (.specific (.schema Api.windowOptions))).Sees runner site scene _ :=
      sees_options valid Api.windowOptions_isFlat fun table same => bare table rest (congrArg (· :: rest) same)
    refine (checked.mapError _).bind fun _ between calm fits => ?_
    refine (sees_fromPlace calm.registry Api.commandArguments_isFlat _ _ rest).weaken fun _ _ known => ?_
    exact ⟨options, rest, rfl, fits, known⟩

/-- Whether the arguments are right is found out without a trace. -/
theorem sees_arguments {runner : Runner} {site : Site} {scene : Scene} (valid : scene.interpreter.registry.Valid)
    (function : Api) (arguments : Arguments)
    (bare : ∀ table rest, function = .onWindowDetected → arguments = .table table :: rest →
      (scene.interpreter.heap.table table).metatable = none) :
    (Check.arguments arguments function.arguments).Sees runner site scene fun _ _ =>
      Accepts function.arguments arguments := by
  -- One function takes a table of options; the signatures of the others are about kinds alone.
  by_cases rules : function = .onWindowDetected
  · subst rules
    refine (sees_rule valid arguments fun table rest => bare table rest rfl).weaken fun _ _ known => ?_
    obtain ⟨options, rest, rfl, ⟨table, rfl, -⟩, accepted⟩ := known
    exact ⟨_, rest, rfl, ⟨table, rfl⟩, accepted⟩
  · exact sees_fromPlace valid (Api.arguments_isFlat rules) _ 1 arguments

end Check
end TileScript.Bridge
