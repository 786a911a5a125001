import TileScript.Script.Raw

/-!
The registry of a context keeps values alive for the host. Every registration has a number of its
own; the slot it uses is given to another one after it is released.
-/

namespace TileScript.Bridge

open Script (Raw)

/-- A registration and the slot that holds its value. -/
structure Registration where
  id : Nat
  slot : Nat
  deriving DecidableEq, Repr, Inhabited

structure Registry where
  slots : Array Raw
  /-- The slots that hold nothing. -/
  free : List Nat
  /-- The registrations that are not released, the last one first. -/
  registrations : List Registration
  /-- The number of the next registration. -/
  next : Nat
  deriving Inhabited

namespace Registry

def empty : Registry := ⟨#[], [], [], 0⟩

/-- Registers a value in a free slot, or in a new one. -/
def register (registry : Registry) (value : Raw) : Nat × Registry :=
  match registry with
  | ⟨slots, free, registrations, next⟩ =>
    match free with
    | slot :: free =>
      (next, ⟨slots.setIfInBounds slot value, free, ⟨next, slot⟩ :: registrations, next + 1⟩)
    | [] =>
      let registrations := ⟨next, slots.size⟩ :: registrations
      (next, ⟨slots.push value, [], registrations, next + 1⟩)

def find? (registry : Registry) (id : Nat) : Option Registration :=
  registry.registrations.find? (·.id == id)

/-- The value of a registration that is not released. -/
def value? (registry : Registry) (id : Nat) : Option Raw :=
  (registry.find? id).bind fun registration => registry.slots[registration.slot]?

/-- Releases a registration and frees its slot. -/
def release (registry : Registry) (id : Nat) : Registry :=
  match registry with
  | ⟨slots, free, registrations, next⟩ =>
    match registrations.find? (·.id == id) with
    | none => ⟨slots, free, registrations, next⟩
    | some registration =>
      ⟨slots.setIfInBounds registration.slot .nil, registration.slot :: free,
        registrations.eraseP (·.id == id), next⟩

/-- Releases every registration that `isHeld` does not ask for. -/
def retain (registry : Registry) (isHeld : Nat → Bool) : Registry :=
  (registry.registrations.filter fun registration => !isHeld registration.id).foldl
    (fun registry registration => registry.release registration.id) registry

end Registry
end TileScript.Bridge
