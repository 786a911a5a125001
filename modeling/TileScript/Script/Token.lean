import TileScript.Number.Numeral
import TileScript.Text.Utf8

/-!
The tokens of a script. Reading them never fails: what is no token becomes a fault among them, which
counts only once the reader of the grammar comes to it.
-/

namespace TileScript.Script

inductive Token where
  | name (name : String)
  /-- A reserved word, an operator, or any other single character. -/
  | sign (sign : String)
  | string (value : ByteArray)
  | integer (value : Integer)
  | number (value : Double)
  | fault (message : String)
  | finish
  deriving Inhabited

/-- A token, how a message quotes it, and the line it ends on. A zero character is not quoted. -/
structure Lexeme where
  token : Token
  quoted : Option String
  line : Nat
  deriving Inhabited

namespace Lexeme

def reserved : List String :=
  [
    "and", "break", "do", "else", "elseif", "end", "false", "for", "function", "goto", "if", "in",
    "local", "nil", "not", "or", "repeat", "return", "then", "true", "until", "while"
  ]

/-- The operators of more than one character, the longer ones first. -/
def operators : List String :=
  ["...", "..", "==", "~=", "<=", ">=", "<<", ">>", "//", "::"]

def isNameStart (c : Char) : Bool := c.isAlpha || c == '_'

def isNamePart (c : Char) : Bool := c.isAlphanum || c == '_'

def quote (text : List Char) : String := "'" ++ String.ofList text ++ "'"

def firstByte (c : Char) : UInt8 := (String.singleton c).toUTF8.toList.headD 0

/-- How a character that begins no other token is quoted: a printable one as it is, any other one by
the number of its first byte. -/
def quoteSign (c : Char) : Option String :=
  if c == '\x00' then none
  else if ' ' ≤ c && c ≤ '~' then some (quote [c])
  else some ("'<\\" ++ toString (firstByte c).toNat ++ ">'")

/-- The rest of the text after a line break, which may be two characters. -/
def afterBreak (c : Char) : List Char → List Char
  | d :: rest => if (d == '\n' || d == '\r') && d != c then rest else d :: rest
  | [] => []

def isBreak (c : Char) : Bool := c == '\n' || c == '\r'

/-- The end of a text, as messages call it. -/
def endQuote : String := "<eof>"

def ending (line : Nat) : Lexeme := ⟨.finish, some endQuote, line⟩

/-- The text after its blanks and line breaks, and the line there. -/
def skipBlank : Nat → List Char → Nat → List Char × Nat
  | 0, text, line => (text, line)
  | _, [], line => ([], line)
  | fuel + 1, c :: rest, line =>
    if isBreak c then skipBlank fuel (afterBreak c rest) (line + 1)
    else if Numeral.isSpace c then skipBlank fuel rest line
    else (c :: rest, line)

/-- What remains after the first token, and the token. -/
structure Scan where
  lexeme : Lexeme
  rest : List Char
  line : Nat

def Scan.fail (message near : String) (line : Nat) : Scan :=
  ⟨⟨.fault (message ++ " near " ++ near), some near, line⟩, [], line⟩

/-! ### Strings -/

/-- A character as the bytes of its encoding, in reverse before `bytes`. -/
def pushChar (bytes : List UInt8) (c : Char) : List UInt8 :=
  (String.singleton c).toUTF8.toList.reverse ++ bytes

def simpleEscape? : Char → Option UInt8
  | 'a' => some 7
  | 'b' => some 8
  | 'f' => some 12
  | 'n' => some 10
  | 'r' => some 13
  | 't' => some 9
  | 'v' => some 11
  | '\\' => some 92
  | '"' => some 34
  | '\'' => some 39
  | _ => none

/-- Bytes of the text of a token as a message quotes them: up to the first zero byte. -/
def quoteBytes (bytes : List UInt8) : String :=
  "'" ++ Utf8.decode ⟨(bytes.takeWhile (· != 0)).toArray⟩ ++ "'"

/-- The bytes of a code point in the extended form of UTF-8, which goes up to 31 bits. -/
def codeBytes (code : Nat) : List UInt8 :=
  if code < 0x80 then [UInt8.ofNat code]
  else
    let rec tail : Nat → Nat → Nat → List UInt8 → List UInt8
      | 0, code, _, bytes => UInt8.ofNat code :: bytes
      | fuel + 1, code, limit, bytes =>
        if code ≤ limit then UInt8.ofNat ((254 - 2 * limit) % 256 + code) :: bytes
        else tail fuel (code / 64) (limit / 2) (UInt8.ofNat (0x80 + code % 64) :: bytes)
    tail 6 code 0x3f []

/-- The limit of code points in escape sequences. -/
def maxCode : Nat := 0x80000000

/-- What an escape sequence in braces comes to: a code point and the text after it, or the complaint
about it and how much of the text it quotes. -/
def braceEscape (text : List Char) : Except (String × Nat) (Nat × List Char) :=
  match text with
  | '\x7b' :: rest =>
    let digits := rest.takeWhile fun c => (Numeral.hexDigit? c).isSome
    let rec value : List Char → (read code : Nat) → Except (String × Nat) Nat
      | [], _, code => .ok code
      | c :: rest, read, code =>
        let code := code * 16 + (Numeral.hexDigit? c).getD 0
        if maxCode ≤ code then .error ("UTF-8 value too large", read + 1)
        else value rest (read + 1) code
    if digits.isEmpty then .error ("hexadecimal digit expected", 2)
    else do
      let code ← value digits 1 0
      match rest.drop digits.length with
      | '\x7d' :: after => .ok (code, after)
      | _ => .error ("missing '\x7d'", digits.length + 2)
  | _ => .error ("missing '\x7b'", 1)

/-- A string up to its closing quote; `bytes` is its value so far in reverse. A message quotes the
value, and of the escape sequence that is at fault the part already read. -/
def stringBody (close : Char) : Nat → List Char → (bytes : List UInt8) → Nat → Scan
  | 0, _, _, line => .fail "unfinished string" endQuote line
  | _, [], _, line => .fail "unfinished string" endQuote line
  | fuel + 1, c :: rest, bytes, line =>
    let near (more : List Char) : String :=
      quoteBytes (firstByte close :: bytes.reverse ++ more.map firstByte)
    if c == close then
      ⟨⟨.string ⟨bytes.reverse.toArray⟩, some (near [c]), line⟩, rest, line⟩
    else if isBreak c then .fail "unfinished string" (near []) line
    else if c != '\\' then stringBody close fuel rest (pushChar bytes c) line
    else
      match rest with
      | [] => .fail "unfinished string" endQuote line
      | 'x' :: rest =>
        match rest with
        | high :: low :: after =>
          match Numeral.hexDigit? high, Numeral.hexDigit? low with
          | some a, some b =>
            stringBody close fuel after (UInt8.ofNat (a * 16 + b) :: bytes) line
          | some _, none =>
            .fail "hexadecimal digit expected" (near [c, 'x', high, low]) line
          | none, _ => .fail "hexadecimal digit expected" (near [c, 'x', high]) line
        | _ => .fail "hexadecimal digit expected" (near (c :: 'x' :: rest)) line
      | 'u' :: rest =>
        match braceEscape rest with
        | .ok (code, after) =>
          stringBody close fuel after ((codeBytes code).reverse ++ bytes) line
        | .error (message, read) => .fail message (near (c :: 'u' :: rest.take read)) line
      | 'z' :: rest =>
        let (after, line) := skipBlank rest.length rest line
        stringBody close fuel after bytes line
      | d :: after =>
        if d.isDigit then
          let digits := (rest.take 3).takeWhile Char.isDigit
          let code := Numeral.ofDigits 10 (digits.filterMap Numeral.hexDigit?)
          if 255 < code then
            .fail "decimal escape too large" (near (c :: rest.take (digits.length + 1))) line
          else
            stringBody close fuel (rest.drop digits.length) (UInt8.ofNat code :: bytes) line
        else if isBreak d then
          stringBody close fuel (afterBreak d after) (10 :: bytes) (line + 1)
        else
          match simpleEscape? d with
          | some byte => stringBody close fuel after (byte :: bytes) line
          | none => .fail "invalid escape sequence" (near [c, d]) line

/-- The level of a long bracket that comes next, and the text after it. -/
def longBracket? (text : List Char) : Option (Nat × List Char) :=
  match text with
  | '[' :: rest =>
    let level := (rest.takeWhile (· == '=')).length
    match rest.drop level with
    | '[' :: after => some (level, after)
    | _ => none
  | _ => none

/-- The contents of a long bracket, in reverse, with the text after it and the line. Every line
break in it counts as one character. -/
def longContents (level : Nat) :
    Nat → List Char → List Char → Nat → Option (List Char × List Char × Nat)
  | 0, _, _, _ => none
  | _, [], _, _ => none
  | fuel + 1, c :: rest, read, line =>
    if c == ']' && (List.replicate level '=' ++ [']']).isPrefixOf rest then
      some (read, rest.drop (level + 1), line)
    else if isBreak c then
      longContents level fuel (afterBreak c rest) ('\n' :: read) (line + 1)
    else longContents level fuel rest (c :: read) line

/-- A line break at the start of a long bracket is not part of it. -/
def skipFirstBreak (text : List Char) (line : Nat) : List Char × Nat :=
  match text with
  | c :: rest => if isBreak c then (afterBreak c rest, line + 1) else (text, line)
  | [] => ([], line)

def longString (level : Nat) (text : List Char) (opened : Nat) : Scan :=
  let (text, line) := skipFirstBreak text opened
  match longContents level (text.length + 1) text [] line with
  | some (read, rest, line) =>
    let value := (String.ofList read.reverse).toUTF8
    let bars := List.replicate level '='
    let quoted := '[' :: bars ++ '[' :: read.reverse ++ ']' :: bars ++ [']']
    ⟨⟨.string value, some (quote (quoted.takeWhile (· != '\x00'))), line⟩, rest, line⟩
  | none =>
    .fail ("unfinished long string (starting at line " ++ toString opened ++ ")") endQuote line

/-! ### Numbers, names and operators -/

def numeralText (exponent : List Char) : Nat → List Char → List Char
  | 0, _ => []
  | _, [] => []
  | fuel + 1, c :: rest =>
    if exponent.contains c then
      match rest with
      | s :: after =>
        if s == '-' || s == '+' then c :: s :: numeralText exponent fuel after
        else c :: numeralText exponent fuel rest
      | [] => [c]
    else if (Numeral.hexDigit? c).isSome || c == '.' then c :: numeralText exponent fuel rest
    else if isNameStart c then [c]
    else []

def numeral (text : List Char) (line : Nat) : Scan :=
  let (point, digits) := match text with
    | '.' :: rest => (['.'], rest)
    | rest => ([], rest)
  let read := point ++ (match digits with
    | '0' :: x :: rest =>
      if x == 'x' || x == 'X' then '0' :: x :: numeralText ['p', 'P'] rest.length rest
      else numeralText ['e', 'E'] digits.length digits
    | _ => numeralText ['e', 'E'] digits.length digits)
  let lexeme (token : Token) : Scan :=
    ⟨⟨token, some (quote read), line⟩, text.drop read.length, line⟩
  match Numeral.ofChars? read with
  | some (.integer value) => lexeme (.integer value)
  | some (.number value) => lexeme (.number value)
  | none => .fail "malformed number" (quote read) line

def word (text : List Char) (line : Nat) : Scan :=
  let read := text.takeWhile isNamePart
  let word := String.ofList read
  let token := if reserved.contains word then Token.sign word else .name word
  ⟨⟨token, some (quote read), line⟩, text.drop read.length, line⟩

def operator (c : Char) (text : List Char) (line : Nat) : Scan :=
  match operators.find? fun operator => operator.toList.isPrefixOf text with
  | some operator =>
    ⟨⟨.sign operator, some (quote operator.toList), line⟩, text.drop operator.length, line⟩
  | none => ⟨⟨.sign (String.singleton c), quoteSign c, line⟩, text.drop 1, line⟩

/-- The rest of a text after a comment, whose opening dashes are already read. -/
def afterComment (text : List Char) (line : Nat) : Option (List Char × Nat) :=
  match longBracket? text with
  | some (level, inner) =>
    let (inner, line) := skipFirstBreak inner line
    (longContents level (inner.length + 1) inner [] line).map fun (_, rest, line) => (rest, line)
  | none => some (text.dropWhile fun c => !isBreak c, line)

/-- The first token of a text. -/
def scan : Nat → List Char → Nat → Scan
  | 0, _, line => ⟨ending line, [], line⟩
  | _, [], line => ⟨ending line, [], line⟩
  | fuel + 1, c :: rest, line =>
    if isBreak c then scan fuel (afterBreak c rest) (line + 1)
    else if Numeral.isSpace c then scan fuel rest line
    else if c == '-' && rest.head? == some '-' then
      match afterComment (rest.drop 1) line with
      | some (rest, line) => scan fuel rest line
      | none =>
        .fail ("unfinished long comment (starting at line " ++ toString line ++ ")") endQuote
          (line + (rest.filter (· == '\n')).length)
    else if c == '"' || c == '\'' then stringBody c (rest.length + 1) rest [] line
    else if c.isDigit || (c == '.' && (rest.head?.map Char.isDigit).getD false) then
      numeral (c :: rest) line
    else if isNameStart c then word (c :: rest) line
    else
      match longBracket? (c :: rest) with
      | some (level, inner) => longString level inner line
      | none =>
        let bars := rest.takeWhile (· == '=')
        if c == '[' && !bars.isEmpty then
          .fail "invalid long string delimiter" (quote ('[' :: bars)) line
        else operator c (c :: rest) line

/-- The tokens of a text up to its end or its first fault. -/
def all : Nat → List Char → Nat → List Lexeme
  | 0, _, line => [ending line]
  | fuel + 1, text, line =>
    let step := scan (fuel + 1) text line
    match step.lexeme.token with
    | .finish | .fault _ => [step.lexeme]
    | _ => step.lexeme :: all fuel step.rest step.line

def ofString (source : String) : List Lexeme :=
  let text := source.toList
  all (text.length + 1) text 1

end Lexeme
end TileScript.Script
