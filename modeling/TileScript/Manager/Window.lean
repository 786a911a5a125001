import TileScript.Manager.Command
import TileScript.Pattern.Search

/-!
New windows, and the rules that choose commands to run for them.
-/

namespace TileScript

structure DetectedWindow where
  id : Nat
  appId : Option String
  appName : Option String
  title : String
  workspace : Option String
  deriving DecidableEq, Repr, Inhabited

/-- The windows a rule is for: every condition that is given has to hold. -/
structure WindowMatcher where
  appId : Option String
  appName : Option Pattern
  title : Option Pattern
  workspace : Option String
  duringStartup : Option Bool
  deriving Repr, Inhabited

namespace WindowMatcher

def any : WindowMatcher := ⟨none, none, none, none, none⟩

def isMatch (matcher : WindowMatcher) (window : DetectedWindow) (startup : Bool) : Bool :=
  matcher.appId.all (fun appId => window.appId == some appId) &&
    matcher.appName.all (fun pattern => window.appName.any pattern.isIn) &&
    matcher.title.all (fun pattern => pattern.isIn window.title) &&
    matcher.workspace.all (fun workspace => window.workspace == some workspace) &&
    matcher.duringStartup.all (· == startup)

/-- Equality of matchers: patterns by the text they were read from. -/
def same (a b : WindowMatcher) : Bool :=
  a.appId == b.appId && a.appName.map (·.source) == b.appName.map (·.source) &&
    a.title.map (·.source) == b.title.map (·.source) && a.workspace == b.workspace &&
    a.duringStartup == b.duringStartup

end WindowMatcher

/-- Commands for the windows that match. -/
structure WindowRule where
  matcher : WindowMatcher
  /-- Whether later rules are looked at after this one matched. -/
  checkFurther : Bool
  commands : List Command
  deriving Repr, Inhabited

namespace WindowRule

def same (a b : WindowRule) : Bool :=
  a.matcher.same b.matcher && a.checkFurther == b.checkFurther &&
    sameList Command.same a.commands b.commands

/-- The commands of the rules that match, up to the first that does not ask to go on. -/
def select (window : DetectedWindow) (startup : Bool) : List WindowRule → List Command
  | [] => []
  | rule :: rest =>
    if !rule.matcher.isMatch window startup then select window startup rest
    else if rule.checkFurther then rule.commands ++ select window startup rest
    else rule.commands

end WindowRule
end TileScript
