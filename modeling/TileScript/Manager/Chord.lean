import TileScript.Number.Unsigned

/-!
Key chords, written as modifiers and a key with dashes between them. The canonical text has the
modifiers in a fixed order, each once, and the key in lower case, so all spellings of a chord have
the same one.
-/

namespace TileScript

inductive Modifier where
  | cmd
  | alt
  | ctrl
  | shift
  deriving DecidableEq, Repr, Inhabited

namespace Modifier

def name : Modifier → String
  | .cmd => "cmd"
  | .alt => "alt"
  | .ctrl => "ctrl"
  | .shift => "shift"

/-- All modifiers in canonical order. -/
def all : List Modifier := [.cmd, .alt, .ctrl, .shift]

end Modifier

/-- ASCII letters in lower case; all other characters stay. -/
def lowercase (text : List Char) : List Char := text.map Char.toLower

def Modifier.ofName? (name : List Char) : Option Modifier :=
  all.find? fun modifier => modifier.name.toList == lowercase name

/-- A key with the modifiers held down with it. -/
structure Chord where
  modifiers : List Modifier
  key : String
  deriving DecidableEq, Repr, Inhabited

namespace Chord

/-- The keys with a name of more than one character, function keys apart. -/
def namedKeys : List String :=
  [
    "esc", "enter", "tab", "space", "backspace", "left", "right", "up", "down", "minus", "equal",
    "comma", "period", "slash", "backslash", "semicolon", "quote", "backtick", "leftsquarebracket",
    "rightsquarebracket", "pageup", "pagedown", "home", "end", "forwarddelete", "keypad0",
    "keypad1", "keypad2", "keypad3", "keypad4", "keypad5", "keypad6", "keypad7", "keypad8",
    "keypad9", "keypadclear", "keypaddecimalmark", "keypaddivide", "keypadenter", "keypadequal",
    "keypadminus", "keypadmultiply", "keypadplus"
  ]

/-- The number of a function key fits eight bits before it is compared with the keys there are. -/
def functionKeyLimit : Nat := 255

def functionKeys : Nat := 20

/-- Whether a text in lower case names a key. -/
def isKey (key : List Char) : Bool :=
  match key with
  | [c] => c.isAlphanum
  | _ =>
    namedKeys.contains (String.ofList key) ||
      match key with
      | 'f' :: number =>
        (unsigned? functionKeyLimit number).any fun n =>
          decide (1 ≤ n) && decide (n ≤ functionKeys)
      | _ => false

/-- What is wrong with the text of a chord. -/
inductive Fault where
  | missingKey
  | unknownKey (key : String)
  | unknownModifier (part : String)
  deriving DecidableEq, Repr

def Fault.message (text : String) : Fault → String
  | .missingKey => "Can't parse '" ++ text ++ "' binding: missing key"
  | .unknownKey key =>
    "Can't parse the key in '" ++ text ++ "' binding: unknown key '" ++ key ++ "'"
  | .unknownModifier part =>
    "Can't parse modifiers in '" ++ text ++ "' binding: unknown modifier '" ++ part ++ "'"

/-- The parts of a text between its dashes. -/
def parts : List Char → List (List Char)
  | [] => [[]]
  | c :: rest =>
    match parts rest with
    | part :: more => if c == '-' then [] :: part :: more else (c :: part) :: more
    | [] => [[c]]

/-- The modifiers that some parts name. -/
def modifiersOf : List (List Char) → Except Fault (List Modifier)
  | [] => .ok []
  | part :: rest =>
    match Modifier.ofName? part with
    | none => .error (.unknownModifier (String.ofList part))
    | some modifier => (modifiersOf rest).map (modifier :: ·)

/-- The chord that a text writes. The key is looked at before the modifiers. -/
def ofString (text : String) : Except Fault Chord :=
  let parts := parts text.toList
  let key := lowercase (parts.getLast?.getD [])
  if key.isEmpty then .error .missingKey
  else if !isKey key then .error (.unknownKey (String.ofList key))
  else
    (modifiersOf parts.dropLast).map fun held =>
      ⟨Modifier.all.filter (held.contains ·), String.ofList key⟩

/-- The canonical text of a chord. -/
def description (chord : Chord) : String :=
  String.join (chord.modifiers.map fun modifier => modifier.name ++ "-") ++ chord.key

end Chord
end TileScript
