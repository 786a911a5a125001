/-!
How the windows of a workspace are laid out at first.
-/

namespace TileScript

inductive Layout where
  | tiles
  | accordion
  deriving DecidableEq, Repr, Inhabited

namespace Layout

def text : Layout → String
  | .tiles => "tiles"
  | .accordion => "accordion"

def invalid : String := "Invalid value for default-root-container-layout"

def ofString (text : String) : Except String Layout :=
  if text = "tiles" then .ok .tiles
  else if text = "accordion" then .ok .accordion
  else .error invalid

end Layout

inductive Orientation where
  | horizontal
  | vertical
  | auto
  deriving DecidableEq, Repr, Inhabited

namespace Orientation

def text : Orientation → String
  | .horizontal => "horizontal"
  | .vertical => "vertical"
  | .auto => "auto"

def invalid : String := "Invalid value for default-root-container-orientation"

def ofString (text : String) : Except String Orientation :=
  if text = "horizontal" then .ok .horizontal
  else if text = "vertical" then .ok .vertical
  else if text = "auto" then .ok .auto
  else .error invalid

end Orientation
end TileScript
