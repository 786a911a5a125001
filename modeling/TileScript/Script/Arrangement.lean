import TileScript.Script.Raw

/-!
The order of the keys of a table, and which of its borders counts. Some places are for the items 1,
2, …; all other keys are spread over a power of two of nodes. What a table holds does not depend on
its arrangement, which is therefore told by a predicate which keys are present.
-/

namespace TileScript.Script

/-- A node for a key, nil if it was never used. Keys that want the same node are linked. -/
structure Node where
  key : Raw
  next : Option Nat
  deriving Inhabited

structure Arrangement where
  /-- How many places are for items. -/
  items : Nat
  /-- The place where a border is looked for first. -/
  hint : Nat
  nodes : Array Node
  /-- Nodes from this one on are known to be used. -/
  free : Nat
  deriving Inhabited

/-- The least power of two that is not below a positive number, as its exponent. -/
def ceilLog2 (n : Nat) : Nat := if n ≤ 1 then 0 else Nat.log2 (n - 1) + 1

def isPowerOfTwo (n : Nat) : Bool := n == 0 || n == twoPow (Nat.log2 n)

namespace Arrangement

def empty (items size : Nat) : Arrangement :=
  let size := if size = 0 then 0 else twoPow (ceilLog2 size)
  ⟨items, items, Array.replicate size ⟨.nil, none⟩, size⟩

/-! ### Places -/

def itemKey (place : Nat) : Raw := .integer (Int64.ofNat place)

/-- The place of a key among the items. -/
def item? (arrangement : Arrangement) : Raw → Option Nat
  | .integer n =>
    if 1 ≤ n.toInt && n.toInt ≤ arrangement.items then some n.toInt.toNat else none
  | _ => none

/-- How a number that is no integer is spread: by its exponent and the high bits of its significand.
-/
def spreadNumber (value : Double) : Nat :=
  if !value.isFinite || value.significand = 0 then 0
  else
    let size := Nat.log2 value.significand + 1
    let high := value.significand * 0x80000000 / twoPow size
    let signed : Int := if value.isNegative then -high else high
    let word := ((value.exponent + size + signed) % 0x100000000).toNat
    if word < 0x80000000 then word else 0xffffffff - word

def spreadBytes (bytes : ByteArray) : Nat :=
  (bytes.foldl (fun sum byte => sum * 31 + byte.toUInt32) (0 : UInt32)).toNat

def wanted (arrangement : Arrangement) (key : Raw) : Nat :=
  let size := arrangement.nodes.size
  let odd := max 1 (size - 1)
  match key with
  | .integer n => n.toUInt64.toNat % odd
  | .number value => spreadNumber value % odd
  | .boolean value => (if value then 1 else 0) % size
  | .string bytes => spreadBytes bytes % size
  | .table table => table.index % odd
  | .function function => function.index % odd
  | .thread number | .failure _ number => number % odd
  | .nil | .file => 0

/-- Follows links from a node to the one with a key. -/
def search (arrangement : Arrangement) (key : Raw) : Nat → Option Nat → Option Nat
  | 0, _ | _, none => none
  | fuel + 1, some place =>
    match arrangement.nodes[place]? with
    | none => none
    | some node => if node.key = key then some place else search arrangement key fuel node.next

def node? (arrangement : Arrangement) (key : Raw) : Option Nat :=
  if key.isNil || arrangement.nodes.isEmpty then none
  else arrangement.search key arrangement.nodes.size (some (arrangement.wanted key))

def has (arrangement : Arrangement) (key : Raw) : Bool :=
  (arrangement.item? key).isSome || (arrangement.node? key).isSome

/-- The last node before one that was never used. -/
def unusedBefore? (nodes : Array Node) : Nat → Option Nat
  | 0 => none
  | place + 1 =>
    match nodes[place]? with
    | some ⟨.nil, _⟩ => some place
    | _ => unusedBefore? nodes place

/-- The node that is linked to another one, looked for along the links. -/
def linkedTo (nodes : Array Node) (target : Nat) : Nat → (place : Nat) → Nat
  | 0, place => place
  | fuel + 1, place =>
    match nodes[place]? with
    | some ⟨_, some next⟩ => if next = target then place else linkedTo nodes target fuel next
    | _ => place

/-- Gives a key a node. If another key is at the node it wants, one of the two goes to an unused
node: the other one if it wants to be elsewhere. Says whether there was a node to give. -/
def put (present : Raw → Bool) (key : Raw) (arrangement : Arrangement) : Bool × Arrangement :=
  let place := arrangement.wanted key
  match arrangement.nodes[place]? with
  | none => (false, arrangement)
  | some other =>
    let home := arrangement.wanted other.key
    let ⟨items, hint, nodes, free⟩ := arrangement
    if !present other.key then
      (true, ⟨items, hint, nodes.setIfInBounds place ⟨key, other.next⟩, free⟩)
    else
      match unusedBefore? nodes free with
      | none => (false, ⟨items, hint, nodes, free⟩)
      | some unused =>
        let nodes :=
          if home = place then
            (nodes.setIfInBounds unused ⟨key, other.next⟩).setIfInBounds place
              ⟨other.key, some unused⟩
          else
            let before := linkedTo nodes place nodes.size home
            ((nodes.modify before fun node => { node with next := some unused }).setIfInBounds
              unused other).setIfInBounds place ⟨key, none⟩
        (true, ⟨items, hint, nodes, unused⟩)

/-! ### Growth -/

/-- Another arrangement for the same keys: those that are items no more are placed first. -/
def resize (present : Raw → Bool) (items size : Nat) (arrangement : Arrangement) : Arrangement :=
  let leaving := (List.range' (items + 1) (arrangement.items - items)).map itemKey
  let keys := (leaving ++ arrangement.nodes.toList.map (·.key)).filter present
  let place (arrangement : Arrangement) (key : Raw) : Arrangement :=
    if (arrangement.item? key).isSome then arrangement
    else (arrangement.put present key).2
  keys.foldl place (empty items size)

/-- The greatest key of an item. -/
def maxItems : Nat := 0x80000000

/-- Adds an item to the count of items up to the same power of two. -/
def countItem (counts : Array Nat) (place : Nat) : Array Nat :=
  counts.modify (ceilLog2 place) (· + 1)

/-- Adds a key to the counts if it can be one of an item. -/
def countKey (counts : Array Nat) : Raw → Array Nat
  | .integer n =>
    if 1 ≤ n.toInt && n.toInt ≤ maxItems then countItem counts n.toInt.toNat else counts
  | _ => counts

/-- The greatest power of two such that more than half of the items up to it are there, and how many
these are; `counts` holds how many there are up to each power and above the one before. -/
def bestItems (total : Nat) : (power sum best inside : Nat) → List Nat → Nat × Nat
  | _, _, best, inside, [] => (best, inside)
  | power, sum, best, inside, count :: rest =>
    if total ≤ power / 2 then (best, inside)
    else if power / 2 < sum + count then
      bestItems total (2 * power) (sum + count) power (sum + count) rest
    else bestItems total (2 * power) (sum + count) best inside rest

def grow (present : Raw → Bool) (key : Raw) (arrangement : Arrangement) : Arrangement :=
  let counts : Array Nat := Array.replicate 32 0
  let (counts, items) := (List.range' 1 arrangement.items).foldl
    (fun (counts, total) place =>
      if present (itemKey place) then (countItem counts place, total + 1) else (counts, total))
    (counts, 0)
  let keys := (arrangement.nodes.toList.map (·.key)).filter present
  let counts := countKey (keys.foldl countKey counts) key
  let total := counts.foldl (· + ·) 0
  let (best, inside) := bestItems total 1 0 0 0 counts.toList
  arrangement.resize present best (items + keys.length + 1 - inside)

def insert (present : Raw → Bool) (key : Raw) (arrangement : Arrangement) : Arrangement :=
  if arrangement.has key then arrangement
  else
    match arrangement.put present key with
    | (true, arrangement) => arrangement
    | (false, arrangement) =>
      let grown := arrangement.grow present key
      if (grown.item? key).isSome then grown else (grown.put present key).2

/-- The arrangement with places for at least so many items. -/
def reserve (present : Raw → Bool) (items : Nat) (arrangement : Arrangement) : Arrangement :=
  if arrangement.items < items then arrangement.resize present items arrangement.nodes.size
  else arrangement

/-! ### Order -/

/-- The first item after a place, of those at the next `count` places. -/
def nextItem? (present : Raw → Bool) : (count place : Nat) → Option Raw
  | 0, _ => none
  | count + 1, place =>
    if present (itemKey (place + 1)) then some (itemKey (place + 1))
    else nextItem? present count (place + 1)

/-- The first key that is present in the `count` nodes from a place on. -/
def nextNode? (present : Raw → Bool) (nodes : Array Node) : (count place : Nat) → Option Raw
  | 0, _ => none
  | count + 1, place =>
    match nodes[place]? with
    | some node =>
      if present node.key then some node.key else nextNode? present nodes count (place + 1)
    | none => none

/-- The key after another one, the first key after nil: items in order, then nodes in order. There
is no answer if the key has no place. -/
def following (present : Raw → Bool) (key : Raw) (arrangement : Arrangement) :
    Option (Option Raw) :=
  let afterItem (place : Nat) : Option Raw :=
    (nextItem? present (arrangement.items - place) place).or
      (nextNode? present arrangement.nodes arrangement.nodes.size 0)
  if key.isNil then some (afterItem 0)
  else
    match arrangement.item? key with
    | some place => some (afterItem place)
    | none =>
      (arrangement.node? key).map fun place =>
        nextNode? present arrangement.nodes arrangement.nodes.size (place + 1)

/-! ### Borders -/

/-- Reading an item beyond the hint moves the hint there. -/
def touch (arrangement : Arrangement) (key : Raw) : Arrangement :=
  match arrangement.item? key with
  | some place =>
    if arrangement.hint < place then { arrangement with hint := place } else arrangement
  | none => arrangement

/-- Halves the distance between a place `low` that is taken or zero, and a place `high` that is
free. -/
def searchBorder (filled : Nat → Bool) : Nat → (low high : Nat) → Nat
  | 0, low, _ => low
  | fuel + 1, low, high =>
    if high ≤ low + 1 then low
    else
      let middle := (low + high) / 2
      if filled middle then searchBorder filled fuel middle high
      else searchBorder filled fuel low middle

/-- Doubles `high` until its place is free. -/
def expandBorder (filled : Nat → Bool) : Nat → (low high : Nat) → Nat
  | 0, low, _ => low
  | fuel + 1, low, high =>
    if filled high then
      if high ≤ 0x3fffffffffffffff then expandBorder filled fuel high (2 * high)
      else if filled 0x7fffffffffffffff then 0x7fffffffffffffff
      else searchBorder filled 64 high 0x7fffffffffffffff
    else searchBorder filled 64 low high

/-- A border beyond the places for items, of which the last one is taken if there is one. -/
def outerBorder (filled : Nat → Bool) (items : Nat) : Nat :=
  if filled (items + 1) then expandBorder filled 64 (max 1 items) (2 * max 1 items) else items

/-- A place that is taken, or zero, such that the next one is free; and the arrangement with a hint
for the next time. -/
def border (present : Raw → Bool) (arrangement : Arrangement) : Nat × Arrangement :=
  let filled (place : Nat) : Bool := present (itemKey place)
  let ⟨items, hint, _, _⟩ := arrangement
  if 0 < hint && !filled hint then
    if 2 ≤ hint && filled (hint - 1) then
      let moves := isPowerOfTwo items && !isPowerOfTwo (hint - 1)
      (hint - 1, if moves then { arrangement with hint := hint - 1 } else arrangement)
    else
      let found := searchBorder filled 64 0 hint
      let moves := isPowerOfTwo items && items / 2 < found
      (found, if moves then { arrangement with hint := found } else arrangement)
  else if hint = items then (outerBorder filled items, arrangement)
  else if !filled (hint + 1) then (hint, arrangement)
  else if !filled items then
    let found := searchBorder filled 64 hint items
    (found, { arrangement with hint := found })
  else (outerBorder filled items, arrangement)

end Arrangement
end TileScript.Script
