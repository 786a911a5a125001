import TileScript.Number.Unsigned
import TileScript.Pattern.Nesting
import TileScript.Pattern.Search
import TileScript.Pattern.Size

/-!
Reading the text of a pattern. Case is ignored from the start; flags inside the pattern change that
up to the end of their group. A text is either a pattern or is refused, for its first fault, for
parts that lie too deep in each other, or for its size.
-/

namespace TileScript
namespace Pattern

/-- What the flags of a group say. -/
structure Flags where
  ignoreCase : Bool
  multiLine : Bool
  dotAll : Bool
  ignoreBlank : Bool
  /-- Whether a carriage return ends a line too. -/
  endAtReturn : Bool
  deriving DecidableEq, Repr

/-- The flags before any is written. -/
def Flags.initial : Flags := ⟨true, false, false, false, false⟩

/-- How far the reader has come: the characters left, the count of those read, and the names of the
groups so far. -/
structure Cursor where
  rest : List Char
  offset : Nat
  names : List (String × Span)

abbrev Reading := StateT Cursor (Except Fault)

namespace Reading

def fail {α : Type} (cause : Cause) (first last : Nat) : Reading α :=
  throw ⟨cause, ⟨first, last⟩, none⟩

def position : Reading Nat := return (← get).offset

def peek : Reading (Option Char) := return (← get).rest.head?

def skip (count : Nat) : Reading Unit :=
  modify fun cursor =>
    { cursor with rest := cursor.rest.drop count, offset := cursor.offset + count }

/-- Reads `text` if it comes next. -/
def accept (text : String) : Reading Bool := do
  if text.toList.isPrefixOf (← get).rest then
    skip text.length
    return true
  else
    return false

/-- Fails at the next character, or at the end. -/
def failHere {α : Type} (cause : Cause) : Reading α := do
  let here ← position
  match ← peek with
  | some _ => fail cause here (here + 1)
  | none => fail cause here here

/-- The count of characters that a pattern with blanks ignored passes over: blanks, and comments up
to the end of the line. -/
def blankLength : Bool → List Char → Nat
  | _, [] => 0
  | true, c :: rest => 1 + blankLength (c != '\n') rest
  | false, c :: rest =>
    if isBlank c then 1 + blankLength false rest
    else if c == '#' then 1 + blankLength true rest
    else 0

def skipBlank (flags : Flags) : Reading Unit := do
  if flags.ignoreBlank then skip (blankLength false (← get).rest)

/-- One character on, and past the blanks after it. -/
def next (flags : Flags) : Reading Unit := do
  skip 1
  skipBlank flags

/-! ### Escapes -/

/-- What an escape or a single character stands for. -/
inductive Item where
  | literal (c : Char)
  | kind (set : CharSet)
  | condition (condition : Condition)

def Item.node (flags : Flags) : Item → Node
  | .literal c => .set (.ofRanges [(c.toNat, c.toNat)] flags.ignoreCase)
  | .kind allowed => .set allowed
  | .condition needed => .condition needed

def scalar? (code : Nat) : Option Char :=
  if Nat.isValidChar code then some (Char.ofNat code) else none

/-- Exactly `count` more digits, the first of which needs no step. -/
def hexDigits (flags : Flags) : Nat → Nat → Reading Nat
  | 0, value => return value
  | count + 1, value => do
    match ← peek with
    | none => failHere .incompleteEscape
    | some c =>
      match Numeral.hexDigit? c with
      | none => failHere .invalidHexDigit
      | some digit =>
        next flags
        hexDigits flags count (value * 16 + digit)

/-- Digits up to the closing brace, and how many there are. -/
def bracedDigits (flags : Flags) (opened : Nat) : Nat → Nat → Nat → Reading (Nat × Nat)
  | 0, _, _ => failHere .incompleteEscape
  | fuel + 1, value, count => do
    match ← peek with
    | none => fail .incompleteEscape opened (← position)
    | some c =>
      if c == '\x7d' then return (value, count)
      else
        match Numeral.hexDigit? c with
        | none => failHere .invalidHexDigit
        | some digit =>
          next flags
          bracedDigits flags opened fuel (value * 16 + digit) (count + 1)

/-- The character that a hexadecimal escape stands for, after its letter. -/
def hexCharacter (flags : Flags) (digits : Nat) : Reading Char := do
  next flags
  let opened ← position
  match ← peek with
  | none => failHere .incompleteEscape
  | some c =>
    if c == '\x7b' then
      next flags
      let (value, count) ← bracedDigits flags opened ((← get).rest.length + 1) 0 0
      let last ← position
      next flags
      if count = 0 then fail .emptyHex opened (← position)
      match scalar? value with
      | some c => return c
      | none => fail .invalidHex (opened + 1) last
    else
      let value ← hexDigits flags digits 0
      match scalar? value with
      | some c => return c
      | none => fail .invalidHex opened (← position)

/-- The characters with a meaning of their own. -/
def isMeta (c : Char) : Bool := "\\.+*?()|[]\x7b\x7d^$#&-~".contains c

/-- The characters that may be written with a backslash for themselves. -/
def isEscapable (c : Char) : Bool :=
  decide (c.toNat < 128) && !c.isAlphanum && c != '<' && c != '>'

def classEscape? : Char → Option CharSet
  | 'd' => some (.exactly CharRanges.digit)
  | 's' => some (.exactly CharRanges.blank)
  | 'w' => some (.exactly CharRanges.word)
  | 'D' => some (.complement (.exactly CharRanges.digit))
  | 'S' => some (.complement (.exactly CharRanges.blank))
  | 'W' => some (.complement (.exactly CharRanges.word))
  | _ => none

def characterEscape? : Char → Option Item
  | 'a' => some (.literal '\x07')
  | 'f' => some (.literal '\x0c')
  | 't' => some (.literal '\t')
  | 'n' => some (.literal '\n')
  | 'r' => some (.literal '\r')
  | 'v' => some (.literal '\x0b')
  | 'A' => some (.condition .textStart)
  | 'z' => some (.condition .textEnd)
  | 'B' => some (.condition .notWordBoundary)
  | '<' => some (.condition .wordStart)
  | '>' => some (.condition .wordEnd)
  | _ => none

def boundaryNamed? : String → Option Condition
  | "start" => some .wordStart
  | "end" => some .wordEnd
  | "start-half" => some .wordStartHalf
  | "end-half" => some .wordEndHalf
  | _ => none

def boundaryName (flags : Flags) : Nat → List Char → Reading String
  | 0, name => return String.ofList name.reverse
  | fuel + 1, name => do
    match ← peek with
    | some c =>
      if c.isAlpha || c == '-' then
        next flags
        boundaryName flags fuel (c :: name)
      else
        return String.ofList name.reverse
    | none => return String.ofList name.reverse

/-- What follows the escape of a word boundary: a name in braces, or nothing of its own when the
braces hold a repetition. -/
def wordBoundary (flags : Flags) (start : Nat) : Reading Condition := do
  if (← peek) != some '\x7b' then return .wordBoundary
  let opened ← get
  next flags
  let contents ← position
  match ← peek with
  | none => fail .unfinishedBoundary start contents
  | some c =>
    if !(c.isAlpha || c == '-') then
      set opened
      return .wordBoundary
    let name ← boundaryName flags (← get).rest.length []
    if (← peek) != some '\x7d' then fail .unclosedBoundary opened.offset (← position)
    let last ← position
    skip 1
    match boundaryNamed? name with
    | some condition => return condition
    | none => fail .unrecognizedBoundary contents last

def escape (flags : Flags) : Reading Item := do
  let start ← position
  skip 1
  match ← peek with
  | none => fail .incompleteEscape start (← position)
  | some c =>
    if c.isDigit then fail .backreference start (start + 2)
    else if c == 'x' then return .literal (← hexCharacter flags 2)
    else if c == 'u' then return .literal (← hexCharacter flags 4)
    else if c == 'U' then return .literal (← hexCharacter flags 8)
    else
      skip 1
      match classEscape? c with
      | some set => return .kind set
      | none =>
        if isMeta c || isEscapable c then return .literal c
        else if c == 'b' then return .condition (← wordBoundary flags start)
        else
          match characterEscape? c with
          | some item => return item
          | none => fail .unrecognizedEscape start (start + 2)

/-! ### Classes -/

def namedRanges? : String → Option CharRanges
  | "alnum" => some [(0x30, 0x39), (0x41, 0x5a), (0x61, 0x7a)]
  | "alpha" => some [(0x41, 0x5a), (0x61, 0x7a)]
  | "ascii" => some [(0x00, 0x7f)]
  | "blank" => some [(0x09, 0x09), (0x20, 0x20)]
  | "cntrl" => some [(0x00, 0x1f), (0x7f, 0x7f)]
  | "digit" => some [(0x30, 0x39)]
  | "graph" => some [(0x21, 0x7e)]
  | "lower" => some [(0x61, 0x7a)]
  | "print" => some [(0x20, 0x7e)]
  | "punct" => some [(0x21, 0x2f), (0x3a, 0x40), (0x5b, 0x60), (0x7b, 0x7e)]
  | "space" => some [(0x09, 0x0d), (0x20, 0x20)]
  | "upper" => some [(0x41, 0x5a)]
  | "word" => some [(0x30, 0x39), (0x41, 0x5a), (0x5f, 0x5f), (0x61, 0x7a)]
  | "xdigit" => some [(0x30, 0x39), (0x41, 0x46), (0x61, 0x66)]
  | _ => none

/-- A named class, such as `[:digit:]`, if one comes next. -/
def namedClass? (flags : Flags) : Reading (Option CharSet) := do
  let rest := (← get).rest
  match rest with
  | '[' :: ':' :: inner =>
    let negated := inner.head? == some '^'
    let body := if negated then inner.drop 1 else inner
    let name := body.takeWhile (· != ':')
    match body.drop name.length with
    | ':' :: ']' :: _ =>
      match namedRanges? (String.ofList name) with
      | some ranges =>
        skip ((if negated then 5 else 4) + name.length)
        let set := CharSet.ofRanges ranges flags.ignoreCase
        return some (if negated then .complement set else set)
      | none => return none
    | _ => return none
  | _ => return none

/-- A member of a class, or several combined by an operator. -/
structure Member where
  set : CharSet
  span : Span
  nesting : Nesting

/-- A character that stands for itself at the start of a class. -/
def Member.verbatim (c : Char) (place : Nat) : Member :=
  ⟨.exactly [(c.toNat, c.toNat)], ⟨place, place + 1⟩, []⟩

/-- The members of a class up to an operator or its end; `start` is where they would begin. -/
def Member.union (start : Nat) (members : List Member) : Member :=
  match members with
  | [] => ⟨.empty, ⟨start, start⟩, []⟩
  | [member] => member
  | first :: others =>
    let span : Span := ⟨first.span.first, ((others.getLast?).getD first).span.last⟩
    let nesting := Nesting.ofParts (members.map (·.nesting))
    ⟨(others.map (·.set)).foldl .union first.set, span, span :: nesting⟩

/-- Two sides of an operator. -/
def Member.combine (operator : CharSet → CharSet → CharSet) (left right : Member) : Member :=
  let span : Span := ⟨left.span.first, right.span.last⟩
  ⟨operator left.set right.set, span, span :: left.nesting.beside right.nesting⟩

def Member.bracketed (negated : Bool) (span : Span) (inner : Member) : Member :=
  ⟨if negated then .complement inner.set else inner.set, span, span :: inner.nesting⟩

/-- The start of a class, after which its members come. -/
structure ClassOpening where
  negated : Bool
  /-- Where the brackets and what belongs to them are written. -/
  span : Span
  start : Nat
  /-- The `-` and `]` that stand for themselves there, the last one first. -/
  verbatim : List Member

def leadingDashes (flags : Flags) (start : Nat) : Nat → List Member → Reading (List Member)
  | 0, found => return found
  | fuel + 1, found => do
    let here ← position
    if (← peek) == some '-' then
      next flags
      if (← peek).isNone then fail .unclosedClass start start
      leadingDashes flags start fuel (.verbatim '-' here :: found)
    else
      return found

def classOpening (flags : Flags) : Reading ClassOpening := do
  let start ← position
  next flags
  if (← peek).isNone then fail .unclosedClass start (← position)
  let negated := (← peek) == some '^'
  if negated then
    next flags
    if (← peek).isNone then fail .unclosedClass start (← position)
  let first ← position
  let dashes ← leadingDashes flags start (← get).rest.length []
  if dashes.isEmpty && (← peek) == some ']' then
    next flags
    if (← peek).isNone then fail .unclosedClass start (← position)
    return ⟨negated, ⟨start, ← position⟩, first, [.verbatim ']' first]⟩
  else
    return ⟨negated, ⟨start, ← position⟩, first, dashes⟩

/-- One end of a range, or a member of a class on its own, with its span. -/
def classItem (flags : Flags) : Reading (Item × Span) := do
  let start ← position
  match ← peek with
  | some '\\' =>
    let item ← escape flags
    return (item, ⟨start, ← position⟩)
  | some c =>
    skip 1
    return (.literal c, ⟨start, start + 1⟩)
  | none => failHere .unclosedClass

def rangeEnd (item : Item × Span) : Reading Char :=
  match item with
  | (.literal c, _) => return c
  | (_, span) => fail .invalidRangeBoundary span.first span.last

/-- A range, a character or a class escape. -/
def classMember (flags : Flags) (opening : Span) : Reading Member := do
  let first ← classItem flags
  skipBlank flags
  if (← peek).isNone then fail .unclosedClass opening.first opening.last
  let after := (← get).rest.drop 1
  let following :=
    (if flags.ignoreBlank then after.drop (blankLength false after) else after).head?
  if (← peek) != some '-' || following == some ']' || following == some '-' then
    match first with
    | (.literal c, span) => return ⟨.ofRanges [(c.toNat, c.toNat)] flags.ignoreCase, span, []⟩
    | (.kind set, span) => return ⟨set, span, []⟩
    | (.condition _, span) => fail .invalidClassEscape span.first span.last
  else
    next flags
    if (← peek).isNone then fail .unclosedClass opening.first opening.last
    let second ← classItem flags
    let span : Span := ⟨first.2.first, second.2.last⟩
    let low ← rangeEnd first
    let high ← rangeEnd second
    if high < low then fail .invalidClassRange span.first span.last
    return ⟨.ofRanges [(low.toNat, high.toNat)] flags.ignoreCase, span, []⟩

/-- The members of a class up to its end. `before` combines what stands before the last operator
with what follows it, which starts at `start`; `members` are the ones since then, the last one
first. -/
def classBody (flags : Flags) (opening : Span) :
    Nat → (before : Member → Member) → (start : Nat) → (members : List Member) → Reading Member
  | 0, _, _, _ => fail .unclosedClass opening.first opening.last
  | fuel + 1, before, start, members => do
    let operator (combined : CharSet → CharSet → CharSet) : Reading Member := do
      skip 2
      let left := before (.union start members.reverse)
      classBody flags opening fuel (.combine combined left) (← position) []
    skipBlank flags
    let here ← position
    match (← get).rest with
    | [] => fail .unclosedClass opening.first opening.last
    | '[' :: _ =>
      let member : Member ← match ← namedClass? flags with
        | some set => pure ⟨set, ⟨here, ← position⟩, []⟩
        | none =>
          let inner ← classOpening flags
          let contents ← classBody flags inner.span fuel id inner.start inner.verbatim
          pure (.bracketed inner.negated ⟨here, ← position⟩ contents)
      classBody flags opening fuel before start (member :: members)
    | ']' :: _ =>
      skip 1
      return before (.union start members.reverse)
    | '&' :: '&' :: _ => operator .intersection
    | '-' :: '-' :: _ => operator .difference
    | '~' :: '~' :: _ => operator .symmetricDifference
    | _ => classBody flags opening fuel before start ((← classMember flags opening) :: members)

def bracketed (flags : Flags) : Reading Member := do
  let here ← position
  let opening ← classOpening flags
  let contents ←
    classBody flags opening.span ((← get).rest.length + 1) id opening.start opening.verbatim
  return .bracketed opening.negated ⟨here, ← position⟩ contents

/-! ### Repetitions -/

/-- The greatest count of a repetition. -/
def maxCount : Nat := 0xffffffff

/-- The digits of a count, with blanks around them passed over. -/
def countDigits (flags : Flags) : Nat → List Char → Reading (List Char)
  | 0, digits => return digits.reverse
  | fuel + 1, digits => do
    match ← peek with
    | some c =>
      if c.isDigit then
        next flags
        countDigits flags fuel (c :: digits)
      else
        return digits.reverse
    | none => return digits.reverse

def skipBlanks : Reading Unit := do
  skip ((← get).rest.takeWhile isBlank).length

/-- A decimal count, or the fault of its absence. -/
def count (flags : Flags) : Reading (Except Fault Nat) := do
  skipBlanks
  let start ← position
  let digits ← countDigits flags (← get).rest.length []
  let span : Span := ⟨start, ← position⟩
  skipBlanks
  if digits.isEmpty then return .error ⟨.emptyRepetition, span, none⟩
  let value := digits.foldl (fun value c => value * 10 + (c.toNat - '0'.toNat)) 0
  if maxCount < value then return .error ⟨.invalidDecimal, span, none⟩
  return .ok value

/-- A counted repetition from its brace on: the least count and the greatest. -/
def counted (flags : Flags) : Reading (Nat × Option Nat) := do
  let start ← position
  let unclosed {α : Type} : Reading α := do fail .unclosedRepetition start (← position)
  next flags
  if (← peek).isNone then unclosed
  let least ← count flags
  let bounds ← match ← peek with
    | none => unclosed
    | some ',' =>
      next flags
      match ← peek with
      | none => unclosed
      | some '\x7d' => pure (← least, none)
      | some _ =>
        let least ← least
        let most ← count flags
        pure (least, some (← most))
    | some _ =>
      let exact ← least
      pure (exact, some exact)
  if (← peek) != some '\x7d' then unclosed
  next flags
  let _ ← accept "?"
  if bounds.2.any (decide <| · < bounds.1) then
    fail .invalidRepetition start (← position)
  return bounds

/-! ### Groups -/

def isNameCharacter (first : Bool) (c : Char) : Bool :=
  if first then c == '_' || isLetter c
  else c == '_' || c == '.' || c == '[' || c == ']' || isLetterOrNumber c

def groupNameCharacters : Nat → List Char → Reading (List Char)
  | 0, name => return name.reverse
  | fuel + 1, name => do
    match ← peek with
    | some '>' => return name.reverse
    | some c =>
      if isNameCharacter name.isEmpty c then
        skip 1
        groupNameCharacters fuel (c :: name)
      else
        failHere .invalidGroupName
    | none => failHere .unclosedGroupName

/-- The name of a group; no two groups share one. -/
def groupName : Reading Unit := do
  if (← peek).isNone then failHere .unclosedGroupName
  let start ← position
  let name := String.ofList (← groupNameCharacters (← get).rest.length [])
  let span : Span := ⟨start, ← position⟩
  if (← peek).isNone then failHere .unclosedGroupName
  skip 1
  if name.isEmpty then fail .emptyGroupName start start
  match (← get).names.find? (·.1 == name) with
  | some (_, earlier) => throw ⟨.duplicateGroupName, span, some earlier⟩
  | none => modify fun cursor => { cursor with names := (name, span) :: cursor.names }

/-- The effect of one flag. Which of several matches comes first makes no difference here, and a text
is never read byte by byte, so that two flags change nothing. -/
def Flag.set? (c : Char) (value : Bool) (flags : Flags) : Option Flags :=
  match c with
  | 'i' => some { flags with ignoreCase := value }
  | 'm' => some { flags with multiLine := value }
  | 's' => some { flags with dotAll := value }
  | 'x' => some { flags with ignoreBlank := value }
  | 'R' => some { flags with endAtReturn := value }
  | 'U' | 'u' => some flags
  | _ => none

/-- Flags up to a colon or the closing parenthesis: what they make of `flags`, and how many there
are. `seen` holds what was written so far and where. -/
def groupFlags : Nat → (seen : List (Char × Nat)) → Flags → Reading (Flags × Nat)
  | 0, seen, flags => return (flags, seen.length)
  | fuel + 1, seen, flags => do
    let here ← position
    match ← peek with
    | none => failHere .incompleteFlags
    | some c =>
      if c == ':' || c == ')' then
        match seen with
        | ('-', place) :: _ => fail .danglingNegation place (place + 1)
        | _ => return (flags, seen.length)
      else
        let negated := seen.any (·.1 == '-')
        let changed ← if c == '-' then pure flags else
          match Flag.set? c (!negated) flags with
          | some changed => pure changed
          | none => failHere .unrecognizedFlag
        match seen.find? (·.1 == c) with
        | some (_, place) =>
          let cause := if c == '-' then .repeatedNegation else .duplicateFlag
          throw ⟨cause, ⟨here, here + 1⟩, some ⟨place, place + 1⟩⟩
        | none =>
          skip 1
          groupFlags fuel ((c, here) :: seen) changed

/-- What an opening parenthesis begins: a group with flags of its own, or a change of the flags. -/
inductive Opening where
  | group (flags : Flags) (captures : Bool)
  | change (flags : Flags)

/-- From an opening parenthesis up to the contents of the group. -/
def groupOpening (flags : Flags) : Reading Opening := do
  let start ← position
  next flags
  for sign in ["?=", "?!", "?<=", "?<!"] do
    if ← accept sign then fail .lookAround start (← position)
  let inner ← position
  if (← accept "?P<") || (← accept "?<") then
    groupName
    return .group flags true
  else if ← accept "?" then
    if (← peek).isNone then fail .unclosedGroup start (start + 1)
    let (changed, written) ← groupFlags ((← get).rest.length + 1) [] flags
    let colon := (← peek) == some ':'
    skip 1
    if colon then return .group changed false
    if written = 0 then fail .missingRepetition inner inner
    return .change changed
  else
    return .group flags true

/-! ### Patterns -/

/-- A part of an alternative; a change of the flags has no node. -/
structure Piece where
  node : Option Node
  start : Nat
  nesting : Nesting

/-- A piece and its nesting, repeated by an operator that ends at `stop`. -/
def Piece.times (piece : Piece) (least : Nat) (most : Option Nat) (stop : Nat) : Piece :=
  ⟨piece.node.map (·.times least most), piece.start, ⟨piece.start, stop⟩ :: piece.nesting⟩

/-- The alternatives of a group, or of the whole text, that have been read so far. -/
structure Branches where
  /-- Where the first alternative starts. -/
  first : Nat
  /-- The finished ones, the last one first. -/
  done : List (Node × Nesting)
  start : Nat
  /-- The parts of the one that is being read, the last one first. -/
  pieces : List Piece

namespace Branches

def empty (start : Nat) : Branches := ⟨start, [], start, []⟩

def push (branches : Branches) (piece : Piece) : Branches :=
  { branches with pieces := piece :: branches.pieces }

/-- The alternative that is being read, if it ends at `stop`. -/
def current (branches : Branches) (stop : Nat) : Node × Nesting :=
  let node := (branches.pieces.filterMap (·.node)).foldl (fun later node => node.followedBy later)
    .empty
  let nesting := Nesting.ofParts (branches.pieces.reverse.map (·.nesting))
  (node, if branches.pieces.length ≤ 1 then nesting else ⟨branches.start, stop⟩ :: nesting)

def another (branches : Branches) (bar : Nat) : Branches :=
  ⟨branches.first, branches.current bar :: branches.done, bar + 1, []⟩

/-- All alternatives, if the last one ends at `stop`. -/
def finish (branches : Branches) (stop : Nat) : Node × Nesting :=
  let last := branches.current stop
  match branches.done with
  | [] => last
  | done =>
    let all := (last :: done).reverse
    (.oneOf (all.map (·.1)), ⟨branches.first, stop⟩ :: Nesting.ofParts (all.map (·.2)))

end Branches

/-- The start or the end of the text, or of a line of it. -/
def edge (flags : Flags) (isStart : Bool) : Condition :=
  match flags.multiLine, flags.endAtReturn with
  | false, _ => if isStart then .textStart else .textEnd
  | true, false => if isStart then .lineStart else .lineEnd
  | true, true => if isStart then .returnLineStart else .returnLineEnd

/-- The characters that a dot does not stand for. -/
def lineEnds (flags : Flags) : CharRanges :=
  if flags.dotAll then []
  else if flags.endAtReturn then [(0x0a, 0x0a), (0x0d, 0x0d)]
  else [(0x0a, 0x0a)]

/-- The alternatives up to the end of the group that was opened at `opened`, or of the text. -/
def alternatives : Nat → (opened : Option Nat) → Flags → Branches → Reading (Node × Nesting)
  | 0, _, _, _ => return (.empty, [])
  | fuel + 1, opened, flags, branches => do
    skipBlank flags
    let here ← position
    let part (node : Node) (nesting : Nesting) : Reading (Node × Nesting) :=
      alternatives fuel opened flags (branches.push ⟨some node, here, nesting⟩)
    let repetition (bounds : Reading (Nat × Option Nat)) : Reading (Node × Nesting) :=
      match branches.pieces with
      | ⟨some node, start, nesting⟩ :: others => do
        let (least, most) ← bounds
        let piece := Piece.times ⟨some node, start, nesting⟩ least most (← position)
        alternatives fuel opened flags { branches with pieces := piece :: others }
      | _ => fail .missingRepetition here here
    let operator (least : Nat) (most : Option Nat) : Reading (Node × Nesting) :=
      repetition do
        skip 1
        let _ ← accept "?"
        return (least, most)
    match ← peek with
    | none =>
      match opened with
      | some start => fail .unclosedGroup start (start + 1)
      | none => return branches.finish here
    | some c =>
      match c with
      | '(' =>
        match ← groupOpening flags with
        | .change changed => alternatives fuel opened changed (branches.push ⟨none, here, []⟩)
        | .group inner captures =>
          let (node, nesting) ← alternatives fuel (some here) inner (.empty (← position))
          part (if captures then .capture node else node) (⟨here, ← position⟩ :: nesting)
      | ')' =>
        match opened with
        | none => fail .unopenedGroup here (here + 1)
        | some _ =>
          skip 1
          return branches.finish here
      | '|' =>
        skip 1
        alternatives fuel opened flags (branches.another here)
      | '[' =>
        let member ← bracketed flags
        part (.set member.set) member.nesting
      | '?' => operator 0 (some 1)
      | '*' => operator 0 none
      | '+' => operator 1 none
      | '\x7b' => repetition (counted flags)
      | '\\' => part ((← escape flags).node flags) []
      | '.' =>
        skip 1
        part (.set (.complement (.exactly (lineEnds flags)))) []
      | c =>
        skip 1
        let item : Item :=
          if c == '^' || c == '$' then .condition (edge flags (c == '^')) else .literal c
        part (item.node flags) []

end Reading

/-- The pattern that a text writes, with case ignored, in a dialect that knows no classes of
characters by their properties and is about characters throughout. -/
def read (source : String) : Except Refusal Pattern := do
  let text := source.toList
  let reading := Reading.alternatives (text.length + 1) none .initial (.empty 0)
  match reading.run ⟨text, 0, []⟩ with
  | .error fault => throw (.fault fault)
  | .ok ((node, nesting), _) =>
    if let some span := nesting.excess? then throw (.fault ⟨.tooDeep, span, none⟩)
    if sizeLimit < node.size then throw .tooLarge
    return ⟨source, node.isIn⟩

theorem source_of_read {text : String} {pattern : Pattern} (ok : read text = .ok pattern) :
    pattern.source = text := by
  simp only [read] at ok
  split at ok
  · cases ok
  · split at ok
    · cases ok
    · split at ok
      · cases ok
      · cases ok
        rfl

/-- A dialect of patterns. All that is known of it is that a pattern keeps the text it was read from.
-/
structure Dialect where
  read : String → Except Refusal Pattern
  source_read : ∀ {text : String} {pattern : Pattern}, read text = .ok pattern → pattern.source = text

def Dialect.standard : Dialect := ⟨Pattern.read, source_of_read⟩

end Pattern
end TileScript
