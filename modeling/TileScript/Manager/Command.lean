import TileScript.Text.Range
import TileScript.Bridge.Value

/-!
Commands: words for the window manager, or a function of a script. A command written as one text is
split into words at white space; quotes keep white space, and inside quotes a backslash keeps the
character after it.
-/

namespace TileScript

namespace Words

/-- Where the splitting of a text stands: the word so far in reverse, the quote it is in, and
whether any part of the word was quoted. -/
structure Scan where
  word : List Char
  quote : Option Char
  wasQuoted : Bool
  deriving DecidableEq, Repr

namespace Scan

def start : Scan := ⟨[], none, false⟩

/-- The word that ends here, if there is one. -/
def finish (scan : Scan) : List String :=
  if scan.word.isEmpty && !scan.wasQuoted then [] else [String.ofList scan.word.reverse]

def push (scan : Scan) (c : Char) : Scan := { scan with word := c :: scan.word }

end Scan

/-- The words of the rest of a text. -/
def splitFrom : Scan → List Char → List String
  | scan, [] => scan.finish
  | scan, c :: rest =>
    match scan.quote with
    | none =>
      if c == '"' || c == '\'' then splitFrom ⟨scan.word, some c, true⟩ rest
      else if isBlank c then scan.finish ++ splitFrom .start rest
      else splitFrom (scan.push c) rest
    | some quote =>
      if c == quote then splitFrom { scan with quote := none } rest
      else if c == '\\' then
        match rest with
        | [] => scan.finish
        | escaped :: rest => splitFrom (scan.push escaped) rest
      else splitFrom (scan.push c) rest

def split (text : String) : List String := splitFrom .start text.toList

end Words

/-- A command that the window manager knows how to run. -/
structure HostCommand where
  words : List String
  deriving DecidableEq, Repr, Inhabited

namespace HostCommand

def name (command : HostCommand) : String := command.words.headD ""

def text (command : HostCommand) : String := " ".intercalate command.words

end HostCommand

/-- Something to run: a command of the window manager, or a function of a script. -/
inductive Command where
  | host (command : HostCommand)
  | script (function : Bridge.Handle)
  deriving DecidableEq, Repr, Inhabited

namespace Command

def text : Command → String
  | .host command => command.text
  | .script _ => "<lua function>"

def same : Command → Command → Bool
  | .host a, .host b => a == b
  | .script a, .script b => a.same b
  | _, _ => false

def handles : Command → List Bridge.Handle
  | .host _ => []
  | .script function => [function]

end Command

/-- Whether two lists have the same length and pairwise related elements. -/
def sameList {α : Type} (same : α → α → Bool) : List α → List α → Bool
  | [], [] => true
  | a :: as, b :: bs => same a b && sameList same as bs
  | _, _ => false

end TileScript
