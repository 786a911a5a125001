import TileScript.Script.Raw

/-!
Patterns of scripts: classes of bytes, each of which can be repeated, with parts of the text that are
remembered. A pattern is read while it is matched, so that a fault behind a place where the match
fails is never met.
-/

namespace TileScript.Script.Matching

/-- A byte of a pattern that stands for itself or is written with a meaning. -/
def mark (c : Char) : UInt8 := UInt8.ofNat c.toNat

/-! ### Classes -/

/-- Whether a byte is in the class that a lower-case letter names; `none` if it names no class. -/
def inNamed? (letter : Char) (byte : UInt8) : Option Bool :=
  let c := Char.ofNat byte.toNat
  let isGraphic := 0x20 < byte && byte < 0x7f
  match letter with
  | 'a' => some c.isAlpha
  | 'c' => some (byte < 0x20 || byte == 0x7f)
  | 'd' => some c.isDigit
  | 'g' => some isGraphic
  | 'l' => some c.isLower
  | 'p' => some (isGraphic && !c.isAlphanum)
  | 's' => some (c == ' ' || (0x09 ≤ byte && byte ≤ 0x0d))
  | 'u' => some c.isUpper
  | 'w' => some c.isAlphanum
  | 'x' => some (c.isDigit || ('a' ≤ c.toLower && c.toLower ≤ 'f'))
  | _ => none

/-- Whether a byte is in the class written by a percent sign and this byte: a letter in upper case
names the complement of a class, and what names no class is meant itself. -/
def inClass (name byte : UInt8) : Bool :=
  let letter := Char.ofNat name.toNat
  match inNamed? letter.toLower byte with
  | some isIn => isIn != letter.isUpper
  | none => byte == name

/-- Whether a byte is in a set, by what is written between its brackets. -/
def inSet (byte : UInt8) : List UInt8 → Bool
  | first :: second :: last :: rest =>
    if first == mark '%' then inClass second byte || inSet byte (last :: rest)
    else if second == mark '-' then (first ≤ byte && byte ≤ last) || inSet byte rest
    else first == byte || inSet byte (second :: last :: rest)
  | [first, second] =>
    if first == mark '%' then inClass second byte else first == byte || second == byte
  | [last] => last == byte
  | [] => false

/-- What follows a set. The first byte after the bracket never closes it. -/
def afterSet : List UInt8 → Except String (List UInt8)
  | byte :: next :: rest =>
    if byte == mark '%' then
      match rest with
      | close :: after => if close == mark ']' then .ok after else afterSet (close :: after)
      | [] => .error "malformed pattern (missing ']')"
    else if next == mark ']' then .ok rest
    else afterSet (next :: rest)
  | _ => .error "malformed pattern (missing ']')"

/-- The set after an opening bracket, and what follows it. -/
def readSet (pattern : List UInt8) : Except String ((UInt8 → Bool) × List UInt8) := do
  let (negated, rest) := match pattern with
    | byte :: rest => if byte == mark '^' then (true, rest) else (false, pattern)
    | [] => (false, [])
  let after ← afterSet rest
  let inside := rest.take (rest.length - after.length - 1)
  return (fun byte => inSet byte inside != negated, after)

/-- The class of bytes that a pattern begins with, and what follows it. -/
def readClass : List UInt8 → Except String ((UInt8 → Bool) × List UInt8)
  | [] => .ok (fun _ => false, [])
  | first :: rest =>
    if first == mark '%' then
      match rest with
      | [] => .error "malformed pattern (ends with '%')"
      | name :: rest => .ok (inClass name, rest)
    else if first == mark '[' then readSet rest
    else if first == mark '.' then .ok (fun _ => true, rest)
    else .ok ((· == first), rest)

/-! ### Matches -/

/-- How much of the text a remembered part has: it may still be open, and a place has no length. -/
inductive Extent where
  | opened
  | place
  | length (length : Nat)
  deriving DecidableEq, Repr, Inhabited

structure Capture where
  start : Nat
  extent : Extent
  deriving DecidableEq, Repr, Inhabited

/-- Where a match ends, with what it has remembered. -/
abbrev Outcome := Except String (Option (Nat × List Capture))

/-- How the rest of a pattern is matched from a place on. -/
abbrev Continuation := (pattern : List UInt8) → (place : Nat) → List Capture → Outcome

/-- How many parts can be remembered. -/
def maxCaptures : Nat := 32

/-- How deep a match can go into itself. -/
def maxDepth : Nat := 200

variable (text : ByteArray)

/-- How many bytes of a class stand in a row. -/
def countOf (isIn : UInt8 → Bool) (place : Nat) : Nat :=
  ((text.toList.drop place).takeWhile isIn).length

/-- Matches a class as often as it can, and less often if the rest does not match then. -/
def expandMost (deeper : Continuation) (rest : List UInt8) (place : Nat)
    (captures : List Capture) : Nat → Outcome
  | 0 => deeper rest place captures
  | count + 1 => do
    match ← deeper rest (place + count + 1) captures with
    | some found => return some found
    | none => expandMost deeper rest place captures count

/-- Matches a class as seldom as it can, up to a number of times. -/
def expandLeast (deeper : Continuation) (rest : List UInt8) (place : Nat)
    (captures : List Capture) : Nat → Outcome
  | 0 => deeper rest place captures
  | count + 1 => do
    match ← deeper rest place captures with
    | some found => return some found
    | none => expandLeast deeper rest (place + 1) captures count

/-- Where what is between two marks ends, `depth` of which are open. -/
def balanced (opening closing : UInt8) : (depth : Nat) → (place : Nat) → List UInt8 → Option Nat
  | _, _, [] => none
  | depth, place, byte :: rest =>
    if byte == closing then
      if depth ≤ 1 then some (place + 1) else balanced opening closing (depth - 1) (place + 1) rest
    else balanced opening closing (if byte == opening then depth + 1 else depth) (place + 1) rest

/-- Closes the part that was opened last and is still open. -/
def close (place : Nat) (captures : List Capture) : Except String (List Capture) :=
  match captures.reverse.findIdx? (·.extent == .opened) with
  | none => .error "invalid pattern capture"
  | some back =>
    let index := captures.length - 1 - back
    .ok (captures.modify index fun capture => ⟨capture.start, .length (place - capture.start)⟩)

/-- Where a remembered part ends that stands here once more. -/
def repeated (digit : UInt8) (place : Nat) (captures : List Capture) : Except String (Option Nat) :=
  let number : Int := (digit.toNat : Int) - '1'.toNat
  match if number < 0 then none else captures[number.toNat]? with
  | some ⟨_, .place⟩ => .ok none
  | some ⟨start, .length length⟩ =>
    if text.extract start (start + length) = text.extract place (place + length) &&
        place + length ≤ text.size then .ok (some (place + length))
    else .ok none
  | _ => .error ("invalid capture index %" ++ toString (number + 1))

/-- Matches a class that a pattern begins with, and the rest after it. -/
def matchClass (deeper again : Continuation) (pattern : List UInt8) (place : Nat)
    (captures : List Capture) : Outcome := do
  let (isIn, rest) ← readClass pattern
  let isHere := (text.toList[place]?).any isIn
  match rest with
  | [] => if isHere then again [] (place + 1) captures else return none
  | suffix :: after =>
    if suffix == mark '?' then
      if isHere then
        if let some found ← deeper after (place + 1) captures then return some found
      again after place captures
    else if suffix == mark '*' then
      if isHere then expandMost deeper after place captures (countOf text isIn place)
      else again after place captures
    else if suffix == mark '+' then
      if isHere then
        expandMost deeper after (place + 1) captures (countOf text isIn (place + 1))
      else return none
    else if suffix == mark '-' then
      if isHere then expandLeast deeper after place captures (countOf text isIn place)
      else again after place captures
    else if isHere then again rest (place + 1) captures
    else return none

/-- Matches what a percent sign begins. -/
def matchEscape (deeper again : Continuation) (pattern : List UInt8) (place : Nat)
    (captures : List Capture) : Outcome := do
  match pattern.drop 1 with
  | [] => matchClass text deeper again pattern place captures
  | name :: rest =>
    if name == mark 'b' then
      match rest with
      | opening :: closing :: rest =>
        if text.toList[place]? = some opening then
          match balanced opening closing 1 (place + 1) (text.toList.drop (place + 1)) with
          | some after => again rest after captures
          | none => return none
        else return none
      | _ => throw "malformed pattern (missing arguments to '%b')"
    else if name == mark 'f' then
      if rest.head? ≠ some (mark '[') then throw "missing '[' after '%f' in pattern"
      let (isIn, after) ← readClass rest
      let before := if place = 0 then 0 else (text.toList[place - 1]?).getD 0
      if !isIn before && isIn ((text.toList[place]?).getD 0) then again after place captures
      else return none
    else if mark '0' ≤ name && name ≤ mark '9' then
      match ← repeated text name place captures with
      | some after => again rest after captures
      | none => return none
    else matchClass text deeper again pattern place captures

/-- Matches a pattern from a place on. `again` steps are those that go no deeper; there is one for
each part of the pattern at most. -/
def matchFlat (deeper : Continuation) : (steps : Nat) → Continuation
  | 0, _, place, captures => .ok (some (place, captures))
  | _, [], place, captures => .ok (some (place, captures))
  | steps + 1, first :: rest, place, captures =>
    let again := matchFlat deeper steps
    if first == mark '(' then
      let isPlace := rest.head? = some (mark ')')
      if maxCaptures ≤ captures.length then .error "too many captures"
      else if isPlace then deeper (rest.drop 1) place (captures ++ [⟨place, .place⟩])
      else deeper rest place (captures ++ [⟨place, .opened⟩])
    else if first == mark ')' then do deeper rest place (← close place captures)
    else if first == mark '$' && rest.isEmpty then
      .ok (if place = text.size then some (place, captures) else none)
    else if first == mark '%' then
      matchEscape text deeper again (first :: rest) place captures
    else matchClass text deeper again (first :: rest) place captures

def matchDeep : (depth : Nat) → Continuation
  | 0, _, _, _ => .error "pattern too complex"
  | depth + 1, pattern, place, captures =>
    matchFlat text (matchDeep depth) pattern.length pattern place captures

/-- The first match from one of `count + 1` places on, the first of which is `place`. -/
def search (pattern : List UInt8) (place : Nat) :
    (count : Nat) → Except String (Option (Nat × Nat × List Capture))
  | 0 => do
    let found ← matchDeep text maxDepth pattern place []
    return found.map (place, ·)
  | count + 1 => do
    match ← matchDeep text maxDepth pattern place [] with
    | some found => return some (place, found)
    | none => search pattern (place + 1) count

/-- Finds a pattern from a place on: where the match starts and ends, and what it has remembered. A
pattern that begins with a circumflex matches there or nowhere. -/
def find (pattern : List UInt8) (place : Nat) : Except String (Option (Nat × Nat × List Capture)) :=
  match pattern with
  | first :: rest =>
    if first == mark '^' then search text rest place 0
    else search text pattern place (text.size - place)
  | [] => search text [] place (text.size - place)

/-- Whether a pattern holds none of the bytes that have a meaning in one. -/
def isPlain (pattern : List UInt8) : Bool :=
  pattern.all fun byte => !("^$*+?.([%-".toUTF8.toList.contains byte)

/-- The first place from `place` on where a text is found as it is written. -/
def findPlain (wanted : List UInt8) : List UInt8 → (place : Nat) → Option Nat
  | [], place => if wanted.isEmpty then some place else none
  | byte :: rest, place =>
    if wanted.isPrefixOf (byte :: rest) then some place else findPlain wanted rest (place + 1)

end TileScript.Script.Matching
