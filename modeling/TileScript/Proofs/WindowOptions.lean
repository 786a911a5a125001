import Mathlib.Data.List.Forall2
import Mathlib.Tactic.MkIffOfInductiveProp
import TileScript.Bridge.Api
import TileScript.Manager.Window
import TileScript.Pattern.Reader
import TileScript.Script.Raw
import TileScript.Text.Utf8

/-! What the options of rules for windows say, and what comes of it: an option that is left out asks for nothing,
and a rule that matches shuts off the later ones unless it asks to go on. -/

namespace TileScript
open Bridge Script

/-- The options of a rule, as far as a script gives them. -/
structure WindowOptions where
  appId : Option String
  appName : Option String
  title : Option String
  workspace : Option String
  duringStartup : Option Bool
  checkFurther : Option Bool

structure Registration where
  options : WindowOptions
  commands : List Command

/-! ### Options in tables -/

namespace Script.Raw

def text? : Raw → Option String
  | .string bytes => some (Utf8.decode bytes)
  | _ => none

def flag? : Raw → Option Bool
  | .boolean flag => some flag
  | _ => none

/-- An option is left out, or it is a text. -/
inductive GivesText : Raw → Option String → Prop where
  | absent : GivesText .nil none
  | present (bytes : ByteArray) : GivesText (.string bytes) (some (Utf8.decode bytes))

inductive GivesFlag : Raw → Option Bool → Prop where
  | absent : GivesFlag .nil none
  | present (flag : Bool) : GivesFlag (.boolean flag) (some flag)

end Script.Raw

namespace WindowOptions

def ofFields (field : String → Raw) : WindowOptions :=
  ⟨(field Api.WindowField.appId).text?, (field Api.WindowField.appName).text?, (field Api.WindowField.title).text?,
    (field Api.WindowField.workspace).text?, (field Api.WindowField.duringStartup).flag?,
    (field Api.WindowField.checkFurther).flag?⟩

/-- The fields of a table give the options, and nothing that is no option in their place. -/
structure GivenBy (options : WindowOptions) (field : String → Raw) : Prop where
  appId : (field Api.WindowField.appId).GivesText options.appId
  appName : (field Api.WindowField.appName).GivesText options.appName
  title : (field Api.WindowField.title).GivesText options.title
  workspace : (field Api.WindowField.workspace).GivesText options.workspace
  duringStartup : (field Api.WindowField.duringStartup).GivesFlag options.duringStartup
  checkFurther : (field Api.WindowField.checkFurther).GivesFlag options.checkFurther

end WindowOptions

/-! ### Which windows are meant -/

namespace Pattern.Dialect

variable (dialect : Dialect)

/-- What a text says as a pattern is found in another one. -/
def Occurs (source text : String) : Prop := ∃ pattern, dialect.read source = .ok pattern ∧ pattern.isIn text

instance (source text : String) : Decidable (dialect.Occurs source text) :=
  match known : dialect.read source with
  | .ok pattern => decidable_of_iff (pattern.isIn text) (by simp [Occurs, known])
  | .error _ => .isFalse (by simp [Occurs, known])

/-- A pattern was read for each text that was given. -/
def Reads : Option String → Option Pattern → Prop := Option.Rel fun source pattern => dialect.read source = .ok pattern

variable {dialect} {source? : Option String} {pattern? : Option Pattern}

theorem Reads.all_isIn (reads : dialect.Reads source? pattern?) (text : String) :
    pattern?.all (fun pattern => pattern.isIn text) = true ↔ ∀ source ∈ source?, dialect.Occurs source text := by
  cases reads with
  | none => simp
  | some read => simp [Occurs, read]

theorem Reads.all_any_isIn (reads : dialect.Reads source? pattern?) (text? : Option String) :
    pattern?.all (fun pattern => text?.any pattern.isIn) = true ↔
      ∀ source ∈ source?, ∃ text ∈ text?, dialect.Occurs source text := by
  cases reads with
  | none => simp
  | some read => cases text? <;> simp [Occurs, read]

end Pattern.Dialect

namespace WindowOptions

/-- All options that are given hold of a window. Of what the window does not have, none does. -/
@[mk_iff]
structure Hold (options : WindowOptions) (dialect : Pattern.Dialect) (window : DetectedWindow) (startup : Bool) : Prop where
  appId : ∀ appId ∈ options.appId, window.appId = some appId
  appName : ∀ source ∈ options.appName, ∃ name ∈ window.appName, dialect.Occurs source name
  title : ∀ source ∈ options.title, dialect.Occurs source window.title
  workspace : ∀ workspace ∈ options.workspace, window.workspace = some workspace
  duringStartup : ∀ flag ∈ options.duringStartup, flag = startup

instance (options : WindowOptions) (dialect : Pattern.Dialect) (window : DetectedWindow) (startup : Bool) :
    Decidable (options.Hold dialect window startup) :=
  decidable_of_iff _ (hold_iff options dialect window startup).symm

end WindowOptions

structure WindowMatcher.Realizes (matcher : WindowMatcher) (dialect : Pattern.Dialect) (options : WindowOptions) : Prop where
  appId : matcher.appId = options.appId
  appName : dialect.Reads options.appName matcher.appName
  title : dialect.Reads options.title matcher.title
  workspace : matcher.workspace = options.workspace
  duringStartup : matcher.duringStartup = options.duringStartup

theorem WindowMatcher.Realizes.isMatch_iff {matcher : WindowMatcher} {dialect : Pattern.Dialect} {options : WindowOptions}
    (realizes : matcher.Realizes dialect options) (window : DetectedWindow) (startup : Bool) :
    matcher.isMatch window startup = true ↔ options.Hold dialect window startup := by
  rw [isMatch, realizes.appId, realizes.workspace, realizes.duringStartup, WindowOptions.hold_iff]
  simp only [Bool.and_eq_true, realizes.appName.all_any_isIn, realizes.title.all_isIn, Option.all_eq_true, Option.mem_def,
    beq_iff_eq, and_assoc]

/-! ### Which commands run -/

/-- A rule is what a registration makes it. -/
structure WindowRule.Realizes (rule : WindowRule) (dialect : Pattern.Dialect) (registration : Registration) : Prop where
  matcher : rule.matcher.Realizes dialect registration.options
  checkFurther : rule.checkFurther = registration.options.checkFurther.getD false
  commands : rule.commands = registration.commands

namespace Registration

variable {dialect : Pattern.Dialect} {window : DetectedWindow} {startup : Bool}

/-- Those that match ask to go on. -/
def LetOn (dialect : Pattern.Dialect) (earlier : List Registration) (window : DetectedWindow) (startup : Bool) : Prop :=
  ∀ registration ∈ earlier, registration.options.Hold dialect window startup → registration.options.checkFurther = some true

instance (earlier : List Registration) : Decidable (LetOn dialect earlier window startup) :=
  inferInstanceAs (Decidable (∀ registration ∈ earlier, _))

/-- The commands of all registrations that match, as long as the ones before let them. -/
def chosen (dialect : Pattern.Dialect) (window : DetectedWindow) (startup : Bool) :
    (earlier later : List Registration) → List Command
  | _, [] => []
  | earlier, next :: rest =>
    (if next.options.Hold dialect window startup ∧ LetOn dialect earlier window startup then next.commands else []) ++
      chosen dialect window startup (earlier ++ [next]) rest

theorem letOn_append_iff {earlier : List Registration} {next : Registration} :
    LetOn dialect (earlier ++ [next]) window startup ↔ LetOn dialect earlier window startup ∧
      (next.options.Hold dialect window startup → next.options.checkFurther = some true) := by
  simp only [LetOn, List.forall_mem_append, List.forall_mem_singleton]

/-- Rules are gone through up to the first that matches and does not ask to go on; from there on, none is let on. -/
theorem chosen_eq {rules : List WindowRule} {later : List Registration}
    (realized : List.Forall₂ (WindowRule.Realizes · dialect) rules later) (earlier : List Registration) :
    chosen dialect window startup earlier later =
      if LetOn dialect earlier window startup then WindowRule.select window startup rules else [] := by
  induction realized generalizing earlier with
  | nil => simp [chosen, WindowRule.select]
  | @cons rule next rules later first _ ih =>
    have matched := first.matcher.isMatch_iff window startup
    have further : rule.checkFurther = true ↔ next.options.checkFurther = some true := by
      rw [first.checkFurther]
      cases next.options.checkFurther <;> simp
    rw [chosen, ih, WindowRule.select, first.commands]
    simp only [letOn_append_iff, Bool.not_eq_true', Bool.eq_false_iff, matched, ne_eq]
    by_cases on : LetOn dialect earlier window startup
    · by_cases hold : next.options.Hold dialect window startup
      · by_cases more : next.options.checkFurther = some true
        · simp [on, hold, more, further.mpr more]
        · simp [on, hold, more, mt further.mp more]
      · simp [on, hold]
    · simp [on]

end Registration
end TileScript
