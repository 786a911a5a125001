import TileScript.Script.Arrangement

/-!
Fields of a table by their keys. Few of them are a list; many of them are in two halves, by the bits
of the numbers that the keys are spread to. Reading a field after setting one gives the value that
was set, and every other field as it was.
-/

namespace TileScript.Script

/-- A number for a value, such that different values rarely have the same one. -/
def Raw.spread : Raw → Nat
  | .nil | .file => 0
  | .boolean b => b.toNat
  | .integer n => n.toUInt64.toNat
  | .number d => Arrangement.spreadNumber d
  | .string bytes => Arrangement.spreadBytes bytes
  | .table place => place.index
  | .function place => place.index
  | .thread n | .failure _ n => n

inductive Fields where
  | few (entries : List (Raw × Raw))
  | halves (even odd : Fields)
  deriving Inhabited

namespace Fields

def empty : Fields := .few []

/-- Which half a key belongs to. -/
def isOdd (level : Nat) (key : Raw) : Bool := key.spread.testBit level

/-- The value of a key in one of the halves at a level. -/
def getAt (key : Raw) (level : Nat) : Fields → Raw
  | .few entries => (entries.lookup key).getD .nil
  | .halves even odd =>
    if isOdd level key then getAt key (level + 1) odd else getAt key (level + 1) even

/-- The value of a key, nil if there is none. -/
def get (fields : Fields) (key : Raw) : Raw := fields.getAt key 0

/-- Sets the value of a key in a list. A new key comes first, and nil takes a key away. -/
def put (key value : Raw) (entries : List (Raw × Raw)) : List (Raw × Raw) :=
  if value.isNil then entries.filter fun entry => entry.1 ≠ key
  else if (entries.lookup key).isSome then
    entries.map fun entry => if entry.1 = key then (key, value) else entry
  else (key, value) :: entries

/-- How many fields are kept in one list. -/
def fewEnough : Nat := 24

/-- How often fields are halved: not beyond the bits that they are told apart by. -/
def maxLevel : Nat := 64

def setAt (key value : Raw) (level : Nat) : Fields → Fields
  | .few entries =>
    let entries := put key value entries
    if entries.length ≤ fewEnough || maxLevel ≤ level then .few entries
    else
      .halves (.few (entries.filter fun entry => !isOdd level entry.1))
        (.few (entries.filter fun entry => isOdd level entry.1))
  | .halves even odd =>
    if isOdd level key then .halves even (setAt key value (level + 1) odd)
    else .halves (setAt key value (level + 1) even) odd

def set (fields : Fields) (key value : Raw) : Fields := fields.setAt key value 0

def toList : Fields → List (Raw × Raw)
  | .few entries => entries
  | .halves even odd => even.toList ++ odd.toList

/-! ### Reading what was set -/

theorem lookup_map_of_isSome (key value : Raw) (entries : List (Raw × Raw))
    (found : (entries.lookup key).isSome) :
    (entries.map fun entry => if entry.1 = key then (key, value) else entry).lookup key =
      some value := by
  induction entries with
  | nil => simp at found
  | cons entry rest ih =>
    obtain ⟨k, v⟩ := entry
    by_cases same : k = key
    · subst same
      simp
    · have other : (key == k) = false := by simpa using fun h => same h.symm
      simp only [List.lookup_cons, other] at found
      simp [same, List.lookup_cons, other, ih found]

theorem lookup_map_of_ne (key value other : Raw) (different : other ≠ key)
    (entries : List (Raw × Raw)) :
    (entries.map fun entry => if entry.1 = key then (key, value) else entry).lookup other =
      entries.lookup other := by
  induction entries with
  | nil => rfl
  | cons entry rest ih =>
    obtain ⟨k, v⟩ := entry
    by_cases same : k = key
    · subst same
      have apart : (other == k) = false := by simpa using different
      simp [List.lookup_cons, apart, ih]
    · simp [same, List.lookup_cons, ih]

theorem lookup_filter (keep : Raw → Bool) (key : Raw) (kept : keep key = true)
    (entries : List (Raw × Raw)) :
    (entries.filter fun entry => keep entry.1).lookup key = entries.lookup key := by
  induction entries with
  | nil => rfl
  | cons entry rest ih =>
    obtain ⟨k, v⟩ := entry
    by_cases same : key = k
    · subst same
      simp [kept]
    · have apart : (key == k) = false := by simpa using same
      by_cases stays : keep k = true
      · simp [stays, List.lookup_cons, apart, ih]
      · simp only [Bool.not_eq_true] at stays
        simp [stays, List.lookup_cons, apart, ih]

theorem lookup_filter_self (key : Raw) (entries : List (Raw × Raw)) :
    (entries.filter fun entry => entry.1 ≠ key).lookup key = none := by
  induction entries with
  | nil => rfl
  | cons entry rest ih =>
    obtain ⟨k, v⟩ := entry
    by_cases same : k = key
    · simpa [same] using ih
    · have apart : (key == k) = false := by simpa using fun h => same h.symm
      simpa [same, List.lookup_cons, apart] using ih

theorem lookup_put_self (key value : Raw) (entries : List (Raw × Raw)) :
    ((put key value entries).lookup key).getD .nil = value := by
  unfold put
  split
  · rename_i isNil
    rw [lookup_filter_self]
    cases value <;> simp_all [Raw.isNil]
  · split
    · rename_i found
      rw [lookup_map_of_isSome key value entries found]
      rfl
    · simp

theorem lookup_put_of_ne (key value other : Raw) (different : other ≠ key)
    (entries : List (Raw × Raw)) :
    (put key value entries).lookup other = entries.lookup other := by
  unfold put
  split
  · exact lookup_filter (fun k => decide (k ≠ key)) other (by simpa using different) entries
  · split
    · exact lookup_map_of_ne key value other different entries
    · have apart : (other == key) = false := by simpa using different
      simp [List.lookup_cons, apart]

theorem getAt_few_split (key : Raw) (level : Nat) (entries : List (Raw × Raw)) :
    getAt key level
      (.halves (.few (entries.filter fun entry => !isOdd level entry.1))
        (.few (entries.filter fun entry => isOdd level entry.1))) =
      getAt key level (.few entries) := by
  cases half : isOdd level key with
  | true => simp [getAt, half, lookup_filter (isOdd level) key half]
  | false =>
    simp [getAt, half, lookup_filter (fun key => !isOdd level key) key (by simp [half])]

theorem getAt_setAt_self (key value : Raw) (level : Nat) (fields : Fields) :
    getAt key level (setAt key value level fields) = value := by
  induction fields generalizing level with
  | few entries =>
    simp only [setAt]
    split
    · exact lookup_put_self key value entries
    · rw [getAt_few_split]
      exact lookup_put_self key value entries
  | halves even odd ihEven ihOdd =>
    cases half : isOdd level key with
    | true => simp [setAt, getAt, half, ihOdd]
    | false => simp [setAt, getAt, half, ihEven]

theorem getAt_setAt_of_ne (key value other : Raw) (different : other ≠ key) (level : Nat)
    (fields : Fields) :
    getAt other level (setAt key value level fields) = getAt other level fields := by
  induction fields generalizing level with
  | few entries =>
    simp only [setAt]
    split
    · simp [getAt, lookup_put_of_ne key value other different entries]
    · rw [getAt_few_split]
      simp [getAt, lookup_put_of_ne key value other different entries]
  | halves even odd ihEven ihOdd =>
    cases half : isOdd level key <;> cases isOdd level other <;>
      simp_all [setAt, getAt]

theorem get_set_self (fields : Fields) (key value : Raw) : (fields.set key value).get key = value :=
  getAt_setAt_self key value 0 fields

theorem get_set_of_ne (fields : Fields) (key value other : Raw) (different : other ≠ key) :
    (fields.set key value).get other = fields.get other :=
  getAt_setAt_of_ne key value other different 0 fields

end Fields
end TileScript.Script
