import TileScript.Bridge.Value

/-!
What a native function expects of its arguments, and how a message describes it.
-/

namespace TileScript.Bridge

mutual

/-- What one argument or field may be. -/
inductive Parameter where
  | specific (type : ParameterType)
  | oneOf (types : List ParameterType)
  | any

inductive ParameterType where
  | kind (kind : Kind)
  | schema (schema : TableSchema)

/-- The fields that a table has to have, in the order in which they are checked. -/
inductive TableSchema where
  | mk (fields : List (String × Parameter))

end

deriving instance BEq, Repr, Inhabited for Parameter, ParameterType, TableSchema

def TableSchema.fields : TableSchema → List (String × Parameter)
  | .mk fields => fields

/-- One entry of the parameters of a function. -/
inductive Argument where
  /-- Exactly one argument. -/
  | fixed (parameter : Parameter)
  /-- As many arguments as match. -/
  | variadic (parameter : Parameter)
  deriving BEq, Repr, Inhabited

namespace Parameter

def ofKind (kind : Kind) : Parameter := .specific (.kind kind)

def optional (type : ParameterType) : Parameter := .oneOf [.kind .nil, type]

end Parameter

mutual

def Parameter.describe : Parameter → String
  | .specific type => type.describe
  | .oneOf types => describeTypes types
  | .any => "any"

def ParameterType.describe : ParameterType → String
  | .kind kind => kind.name
  | .schema schema => schema.describe

def TableSchema.describe : TableSchema → String
  | .mk fields => "\x7b " ++ describeFields fields ++ " \x7d"

def describeTypes : List ParameterType → String
  | [] => ""
  | [type] => type.describe
  | type :: next :: rest => type.describe ++ ", or " ++ describeTypes (next :: rest)

def describeFields : List (String × Parameter) → String
  | [] => ""
  | [(name, parameter)] => name ++ ": " ++ parameter.describe
  | (name, parameter) :: next :: rest =>
    name ++ ": " ++ parameter.describe ++ ", " ++ describeFields (next :: rest)

end

def Argument.describe : Argument → String
  | .fixed parameter => parameter.describe
  | .variadic parameter => "variadic(" ++ parameter.describe ++ ")"

namespace Argument

def ofKind (kind : Kind) : Argument := .fixed (.ofKind kind)

end Argument
end TileScript.Bridge
