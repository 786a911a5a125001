/-!
What can be wrong with the text of a pattern, and how it is reported: the pattern, a marker line
under the offending characters, and the cause.
-/

namespace TileScript
namespace Pattern

/-- The characters from `first` up to, but not including, `last`. -/
structure Span where
  first : Nat
  last : Nat
  deriving DecidableEq, Repr

/-- What is wrong with a pattern. -/
inductive Cause where
  | unclosedGroup
  | unopenedGroup
  | unclosedClass
  | invalidClassRange
  | invalidRangeBoundary
  | invalidClassEscape
  | missingRepetition
  | invalidRepetition
  | unclosedRepetition
  | emptyRepetition
  | invalidDecimal
  | incompleteEscape
  | unrecognizedEscape
  | emptyHex
  | invalidHex
  | invalidHexDigit
  | backreference
  | lookAround
  | unrecognizedFlag
  | duplicateFlag
  | repeatedNegation
  | danglingNegation
  | incompleteFlags
  | emptyGroupName
  | invalidGroupName
  | unclosedGroupName
  | duplicateGroupName
  | unclosedBoundary
  | unrecognizedBoundary
  | unfinishedBoundary
  | tooDeep
  deriving DecidableEq, Repr

def Cause.message : Cause → String
  | .unclosedGroup => "unclosed group"
  | .unopenedGroup => "unopened group"
  | .unclosedClass => "unclosed character class"
  | .invalidClassRange => "invalid character class range, the start must be <= the end"
  | .invalidRangeBoundary => "invalid range boundary, must be a literal"
  | .invalidClassEscape => "invalid escape sequence found in character class"
  | .missingRepetition => "repetition operator missing expression"
  | .invalidRepetition => "invalid repetition count range, the start must be <= the end"
  | .unclosedRepetition => "unclosed counted repetition"
  | .emptyRepetition => "repetition quantifier expects a valid decimal"
  | .invalidDecimal => "decimal literal invalid"
  | .incompleteEscape => "incomplete escape sequence, reached end of pattern prematurely"
  | .unrecognizedEscape => "unrecognized escape sequence"
  | .emptyHex => "hexadecimal literal empty"
  | .invalidHex => "hexadecimal literal is not a Unicode scalar value"
  | .invalidHexDigit => "invalid hexadecimal digit"
  | .backreference => "backreferences are not supported"
  | .lookAround => "look-around, including look-ahead and look-behind, is not supported"
  | .unrecognizedFlag => "unrecognized flag"
  | .duplicateFlag => "duplicate flag"
  | .repeatedNegation => "flag negation operator repeated"
  | .danglingNegation => "dangling flag negation operator"
  | .incompleteFlags => "expected flag but got end of regex"
  | .emptyGroupName => "empty capture group name"
  | .invalidGroupName => "invalid capture group character"
  | .unclosedGroupName => "unclosed capture group name"
  | .duplicateGroupName => "duplicate capture group name"
  | .unclosedBoundary =>
    "special word boundary assertion is either unclosed or contains an invalid character"
  | .unrecognizedBoundary =>
    "unrecognized special word boundary assertion, valid choices are: start, end, start-half " ++
      "or end-half"
  | .unfinishedBoundary =>
    "found either the beginning of a special word boundary or a bounded repetition on a \\b " ++
      "with an opening brace, but no closing brace"
  | .tooDeep => "exceed the maximum number of nested parentheses/brackets (250)"

/-- A cause and where it shows; `earlier` is the first use of what must not come twice. -/
structure Fault where
  cause : Cause
  span : Span
  earlier : Option Span
  deriving DecidableEq, Repr

namespace Fault

/-- The line and the column of a place, both from zero. -/
def locate : List Char → Nat → Nat × Nat
  | _, 0 => (0, 0)
  | [], offset => (0, offset)
  | c :: rest, offset + 1 =>
    let (line, column) := locate rest offset
    if c == '\n' then (line + 1, column)
    else if line = 0 then (0, column + 1)
    else (line, column)

/-- The lines of a pattern; a line break at the end opens no further line, and a carriage return
before one is part of it. -/
def lines (pattern : List Char) : List (List Char) :=
  let pieces := pattern.splitOnP (· == '\n')
  let ended := pieces.dropLast.map fun line =>
    if line.getLast? == some '\r' then line.dropLast else line
  match pieces.getLast? with
  | none | some [] => ended
  | some last => ended ++ [last]

/-- Markers under the columns of the spans, which are in order. -/
def markers : Nat → List (Nat × Nat) → String
  | _, [] => ""
  | column, (first, last) :: rest =>
    let width := max 1 (last - first)
    String.ofList (List.replicate (first - column) ' ') ++
      String.ofList (List.replicate width '^') ++ markers (max column first + width) rest

/-- The report of a fault in a pattern. A pattern of several lines is shown with line numbers
between two rules. -/
def report (fault : Fault) (pattern : String) : String :=
  let text := pattern.toList
  let rows := lines text
  let count := rows.length + (if text.getLast? == some '\n' then 1 else 0)
  let numberWidth := if count ≤ 1 then 0 else (toString count).length
  let padding := if numberWidth = 0 then 4 else numberWidth + 2
  let spans := (fault.span :: fault.earlier.toList).map fun span =>
    (locate text span.first, locate text span.last)
  let onLine (row : Nat) : List (Nat × Nat) :=
    (spans.filterMap fun (start, stop) =>
      if start.1 = row && stop.1 = row then some (start.2, stop.2) else none).mergeSort
      fun a b => decide (a.1 ≤ b.1)
  let shown := rows.zipIdx.map fun (line, row) =>
    let number := toString (row + 1)
    let label :=
      if numberWidth = 0 then "    "
      else String.ofList (List.replicate (numberWidth - number.length) ' ') ++ number ++ ": "
    let notes := onLine row
    label ++ String.ofList line ++ "\n" ++
      (if notes.isEmpty then ""
       else String.ofList (List.replicate padding ' ') ++ markers 0 notes ++ "\n")
  let notated := String.join shown
  if text.contains '\n' then
    let rule := String.ofList (List.replicate 79 '~') ++ "\n"
    let across := (spans.filter fun (start, stop) => start.1 != stop.1).map fun (start, stop) =>
      "on line " ++ toString (start.1 + 1) ++ " (column " ++ toString (start.2 + 1) ++
        ") through line " ++ toString (stop.1 + 1) ++ " (column " ++ toString stop.2 ++ ")"
    "regex parse error:\n" ++ rule ++ notated ++ rule ++
      (if across.isEmpty then "" else "\n".intercalate across ++ "\n") ++
      "error: " ++ fault.cause.message
  else
    "regex parse error:\n" ++ notated ++ "error: " ++ fault.cause.message

end Fault

/-- Why a text is refused as a pattern: it has a fault, or what it says takes too much to search
for. -/
inductive Refusal where
  | fault (fault : Fault)
  | tooLarge
  deriving DecidableEq, Repr

/-- The greatest size of a pattern, in bytes. -/
def sizeLimit : Nat := 10485760

def Refusal.report (refusal : Refusal) (pattern : String) : String :=
  match refusal with
  | .fault first => first.report pattern
  | .tooLarge => "Compiled regex exceeds size limit of " ++ toString sizeLimit ++ " bytes."

end Pattern
end TileScript
