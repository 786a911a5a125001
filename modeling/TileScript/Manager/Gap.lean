import TileScript.Manager.Dynamic

/-!
The six gaps between windows and around them, by number and by name.
-/

namespace TileScript

inductive GapPosition where
  | innerHorizontal
  | innerVertical
  | outerLeft
  | outerBottom
  | outerTop
  | outerRight
  deriving DecidableEq, Repr, Inhabited

namespace GapPosition

def all : List GapPosition :=
  [.innerHorizontal, .innerVertical, .outerLeft, .outerBottom, .outerTop, .outerRight]

def id : GapPosition → Int
  | .innerHorizontal => 1
  | .innerVertical => 2
  | .outerLeft => 3
  | .outerBottom => 4
  | .outerTop => 5
  | .outerRight => 6

def ofId? (id : Int) : Option GapPosition := all.find? (·.id == id)

/-- The name of the global of scripts that holds the number. -/
def globalName : GapPosition → String
  | .innerHorizontal => "GAP_INNER_HORIZONTAL"
  | .innerVertical => "GAP_INNER_VERTICAL"
  | .outerLeft => "GAP_OUTER_LEFT"
  | .outerBottom => "GAP_OUTER_BOTTOM"
  | .outerTop => "GAP_OUTER_TOP"
  | .outerRight => "GAP_OUTER_RIGHT"

end GapPosition

structure Gaps where
  innerHorizontal : Dynamic Int
  innerVertical : Dynamic Int
  outerLeft : Dynamic Int
  outerBottom : Dynamic Int
  outerTop : Dynamic Int
  outerRight : Dynamic Int
  deriving Repr, Inhabited

namespace Gaps

def zero : Gaps :=
  ⟨.constant 0, .constant 0, .constant 0, .constant 0, .constant 0, .constant 0⟩

def get (gaps : Gaps) : GapPosition → Dynamic Int
  | .innerHorizontal => gaps.innerHorizontal
  | .innerVertical => gaps.innerVertical
  | .outerLeft => gaps.outerLeft
  | .outerBottom => gaps.outerBottom
  | .outerTop => gaps.outerTop
  | .outerRight => gaps.outerRight

def set (gaps : Gaps) (position : GapPosition) (value : Dynamic Int) : Gaps :=
  match position with
  | .innerHorizontal => { gaps with innerHorizontal := value }
  | .innerVertical => { gaps with innerVertical := value }
  | .outerLeft => { gaps with outerLeft := value }
  | .outerBottom => { gaps with outerBottom := value }
  | .outerTop => { gaps with outerTop := value }
  | .outerRight => { gaps with outerRight := value }

def same (a b : Gaps) : Bool :=
  GapPosition.all.all fun position => (a.get position).same (b.get position)

def handles (gaps : Gaps) : List Bridge.Handle :=
  GapPosition.all.flatMap fun position => (gaps.get position).handles

end Gaps
end TileScript
