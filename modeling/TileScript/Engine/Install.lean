import TileScript.Engine.World

/-!
The tables and globals that scripts find in the context of an engine.
-/

namespace TileScript.Engine

open Bridge

/-- Makes the functions of a namespace. -/
def installFunctions (table : Handle) : List Api → Act Unit
  | [] => return
  | function :: rest => do
    let native ← Function.ofNative (.ofApi function)
    Table.setField table function.fieldName (.function native)
    installFunctions table rest

/-- Makes the globals that hold the numbers of the gaps. -/
def installPositions : List GapPosition → Act Unit
  | [] => return
  | position :: rest => do
    Global.set position.globalName (.ofInt position.id)
    installPositions rest

/-- Makes the namespaces in a table. -/
def installNamespaces (root : Handle) : List (String × List Api) → Act Unit
  | [] => return
  | (name, functions) :: rest => do
    let table ← Table.create
    installFunctions table functions
    Table.setField root name (.table table)
    installNamespaces root rest

/-- Makes everything that scripts are offered. -/
def install : Act Unit := do
  let root ← Table.create
  installPositions GapPosition.all
  installNamespaces root Api.namespaces
  Global.set Api.globalName (.table root)

end TileScript.Engine
