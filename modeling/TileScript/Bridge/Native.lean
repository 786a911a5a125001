import TileScript.Bridge.Api
import TileScript.Bridge.Error

/-!
Native functions: functions of the host that scripts can call. What one does is data, so that a heap
can hold it.
-/

namespace TileScript.Bridge

/-- What a native function does once its arguments are accepted. -/
inductive NativeBody where
  /-- Gives these values back. -/
  | reply (values : List Value)
  /-- Reports a failed call. -/
  | refuse (message : String)
  | fail (error : Error)
  /-- Gives back the arguments at some positions. -/
  | select (positions : List Int)
  /-- Gives back the names of the kinds at some positions. -/
  | kinds (positions : List Int)
  | count
  | collect
  /-- Calls its first argument with the others. -/
  | apply
  | silent
  /-- Does what the window manager offers. -/
  | api (function : Api)
  /-- Runs code of the host, known by its number, with the values it has captured. -/
  | host (code : Nat) (captured : List Value)
  deriving DecidableEq, Repr, Inhabited

structure Native where
  /-- Stands before every error the function raises. -/
  name : String
  /-- Without a schema all arguments are accepted. -/
  schema : Option (List Argument)
  /-- Whether the accepted arguments are noted. -/
  isTraced : Bool
  body : NativeBody
  deriving Repr, Inhabited

namespace Native

def ofApi (function : Api) : Native :=
  ⟨function.name, some function.arguments, false, .api function⟩

def handles (native : Native) : List Handle :=
  match native.body with
  | .reply values | .host _ values => values.filterMap Value.handle?
  | _ => []

end Native
end TileScript.Bridge
