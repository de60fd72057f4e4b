/-
  NetDelegate/Json/Issue.lean
  ===========================
  **What is wrong with a JSON text, and where.**  A reader that stops says what it found wrong
  (`Issue`) and how many bytes it left unread.  Line and column are worked out from that: the
  line is one more than the line ends read, the column counts the bytes read after the last of
  them.
-/
import NetDelegate.Json.Number
import NetDelegate.Text.Quoted
import NetDelegate.Text.Utf8

namespace NetDelegate.Json

/-- What stood in the text where something else was wanted. -/
inductive Found where
  | null
  | boolean (b : Bool)
  | number (n : Number)
  | string (s : String)
  | array
  | object
  deriving Repr, DecidableEq

namespace Found

/-- The wording of a message. -/
def text : Found → String
  | null => "null"
  | boolean true => "boolean `true`"
  | boolean false => "boolean `false`"
  | number (.real x) => "floating point `" ++ String.ofList (Number.real x).text ++ "`"
  | number n => "integer `" ++ String.ofList n.text ++ "`"
  | string s => "string " ++ Quoted.quote s
  | array => "sequence"
  | object => "map"

end Found

/-- Why reading a JSON text stops. -/
inductive Issue where
  | endInList
  | endInObject
  | endInString
  | endInValue
  | colonExpected
  | commaOrListEndExpected
  | commaOrObjectEndExpected
  | literalExpected
  | valueExpected
  | keyExpected
  | invalidEscape
  | invalidNumber
  | numberOutOfRange
  | invalidCodePoint
  | controlCharacter
  | loneSurrogate
  | unfinishedSurrogate
  | trailingComma
  | trailingCharacters
  | tooDeep
  | invalidType (found : Found) (expected : String)
  | invalidValue (found : Found) (expected : String)
  | invalidLength (length : Nat) (expected : String)
  | missingField (name : String)
  | duplicateField (name : String)
  deriving Repr, DecidableEq

namespace Issue

/-- The wording of an issue, without its place. -/
def text : Issue → String
  | endInList => "EOF while parsing a list"
  | endInObject => "EOF while parsing an object"
  | endInString => "EOF while parsing a string"
  | endInValue => "EOF while parsing a value"
  | colonExpected => "expected `:`"
  | commaOrListEndExpected => "expected `,` or `]`"
  | commaOrObjectEndExpected => "expected `,` or `\x7d`"
  | literalExpected => "expected ident"
  | valueExpected => "expected value"
  | keyExpected => "key must be a string"
  | invalidEscape => "invalid escape"
  | invalidNumber => "invalid number"
  | numberOutOfRange => "number out of range"
  | invalidCodePoint => "invalid unicode code point"
  | controlCharacter => "control character (\\u0000-\\u001F) found while parsing a string"
  | loneSurrogate => "lone leading surrogate in hex escape"
  | unfinishedSurrogate => "unexpected end of hex escape"
  | trailingComma => "trailing comma"
  | trailingCharacters => "trailing characters"
  | tooDeep => "recursion limit exceeded"
  | invalidType found expected => "invalid type: " ++ found.text ++ ", expected " ++ expected
  | invalidValue found expected => "invalid value: " ++ found.text ++ ", expected " ++ expected
  | invalidLength n expected =>
    "invalid length " ++ String.ofList (Number.decimalDigits n) ++ ", expected " ++ expected
  | missingField name => "missing field `" ++ name ++ "`"
  | duplicateField name => "duplicate field `" ++ name ++ "`"

end Issue

/-- A reader's stop: the issue, and the number of bytes left unread at the place it is about. -/
structure Stop where
  issue : Issue
  unread : Nat
  deriving Repr, DecidableEq

/-- Stops at the place reached. -/
def stopBefore {α : Type} (issue : Issue) (rest : Bytes) : Except Stop α :=
  .error ⟨issue, rest.length⟩

/-- Stops on the next byte: the place is the one after it, if there is one. -/
def stopOn {α : Type} (issue : Issue) (rest : Bytes) : Except Stop α :=
  .error ⟨issue, rest.length - 1⟩

/-- An issue with its place in the text. -/
structure Error where
  issue : Issue
  line : Nat
  column : Nat
  deriving Repr, DecidableEq

/-- Line and column after the given bytes. -/
def placeAfter (read : Bytes) : Nat × Nat :=
  (1 + read.count 10, (read.reverse.takeWhile (· ≠ 10)).length)

/-- Finds the place of a stop in the text that was read. -/
def Stop.locate (text : Bytes) (s : Stop) : Error :=
  let place := placeAfter (text.take (text.length - s.unread))
  ⟨s.issue, place.1, place.2⟩

/-- The message of an error. -/
def Error.text (e : Error) : String :=
  e.issue.text ++ " at line " ++ String.ofList (Number.decimalDigits e.line) ++ " column " ++
    String.ofList (Number.decimalDigits e.column)

end NetDelegate.Json
