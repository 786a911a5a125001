import TileScript.Manager.Chord
import TileScript.Manager.Command

/-!
Binding modes: named lists of chords with the commands they run. A list keeps the order in which
chords were first bound and has each chord once.
-/

namespace TileScript

/-- A chord and the commands it runs. -/
structure Binding where
  chord : Chord
  commands : List Command
  deriving DecidableEq, Repr, Inhabited

namespace Binding

def description (binding : Binding) : String := binding.chord.description

def same (a b : Binding) : Bool :=
  a.chord == b.chord && sameList Command.same a.commands b.commands

end Binding

/-- A named list of bindings. -/
structure Mode where
  name : String
  bindings : List Binding
  deriving DecidableEq, Repr, Inhabited

namespace Mode

/-- A mode without bindings. -/
def empty (name : String) : Mode := ⟨name, []⟩

/-- Puts a binding in the place of the first one with its chord, or at the end. -/
def insert (binding : Binding) : List Binding → List Binding
  | [] => [binding]
  | first :: rest =>
    if first.chord = binding.chord then binding :: rest else first :: insert binding rest

/-- Binds a chord. A chord that is bound already keeps its place. -/
def bind (mode : Mode) (binding : Binding) : Mode :=
  { mode with bindings := insert binding mode.bindings }

def described? (mode : Mode) (description : String) : Option Binding :=
  mode.bindings.find? (·.description == description)

/-- Removes the binding with this description. -/
def unbind (mode : Mode) (description : String) : Mode :=
  { mode with bindings := mode.bindings.eraseP (·.description == description) }

def lookup (mode : Mode) (chord : Chord) : Option Binding :=
  mode.bindings.find? (·.chord == chord)

def same (a b : Mode) : Bool := a.name == b.name && sameList Binding.same a.bindings b.bindings

end Mode

/-- The modes by their names, which ascend. -/
abbrev Modes := List (String × Mode)

namespace Modes

def find? (modes : Modes) (name : String) : Option Mode := List.lookup name modes

/-- Puts a mode under its name in the place that keeps the names ascending. -/
def insert (name : String) (mode : Mode) : Modes → Modes
  | [] => [(name, mode)]
  | (first, old) :: rest =>
    if name = first then (name, mode) :: rest
    else if name < first then (name, mode) :: (first, old) :: rest
    else (first, old) :: insert name mode rest

/-- The mode with this name, an empty one if there is none. -/
def get (modes : Modes) (name : String) : Mode := (modes.find? name).getD (.empty name)

def same : Modes → Modes → Bool := sameList fun a b => a.1 == b.1 && a.2.same b.2

end Modes
end TileScript
