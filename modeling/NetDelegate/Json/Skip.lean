/-
  NetDelegate/Json/Skip.lean
  ==========================
  **Passing over a value without reading it.**  Where a value does not matter it is only scanned.
  The scan follows the grammar of brackets, commas and names, but it is more lenient than the
  reader inside tokens: nesting has no limit, numbers have no range, and a string may hold bytes
  that are no text and any four digits after `\u`.
-/
import NetDelegate.Json.Reader

namespace NetDelegate.Json

/-! ### Tokens -/

/-- Passes over an escape after its backslash. -/
def skipEscape : Bytes → Except Stop Bytes
  | [] => stopBefore .endInString []
  | b :: rest =>
    if (shortEscape? b).isSome then .ok rest
    else if b = ascii 'u' then do
      let (_, rest) ← hexEscape rest
      .ok rest
    else stopBefore .invalidEscape rest

/-- Passes over a string after its opening quote.  Every step takes a byte at least, so as many
    steps as there are bytes suffice. -/
def skipStringSteps : Nat → Bytes → Except Stop Bytes
  | 0, _ => stopBefore .endInString []
  | _ + 1, [] => stopBefore .endInString []
  | steps + 1, b :: rest =>
    if b = ascii '"' then .ok rest
    else if b = ascii '\\' then do
      let rest ← skipEscape rest
      skipStringSteps steps rest
    else if b < 0x20 then stopBefore .controlCharacter (b :: rest)
    else skipStringSteps steps rest

/-- Passes over a string after its opening quote. -/
def skipString (input : Bytes) : Except Stop Bytes := skipStringSteps (input.length + 1) input

/-- Passes over an exponent after its letter. -/
def skipExponent (input : Bytes) : Except Stop Bytes :=
  let input := match input with
    | b :: rest => if b = ascii '+' || b = ascii '-' then rest else input
    | [] => []
  match input with
  | [] => stopBefore .invalidNumber []
  | b :: rest =>
    if isDigit b then .ok (rest.dropWhile isDigit) else stopBefore .invalidNumber rest

/-- Passes over an exponent, if there is one. -/
def skipMaybeExponent : Bytes → Except Stop Bytes
  | [] => .ok []
  | b :: rest => if b = ascii 'e' || b = ascii 'E' then skipExponent rest else .ok (b :: rest)

/-- Passes over what follows an integer part. -/
def skipAfterInteger : Bytes → Except Stop Bytes
  | [] => .ok []
  | b :: rest =>
    if b = ascii '.' then
      if digitNext rest then skipMaybeExponent (rest.dropWhile isDigit)
      else stopOn .invalidNumber rest
    else skipMaybeExponent (b :: rest)

/-- Passes over a number after its sign. -/
def skipNumber : Bytes → Except Stop Bytes
  | [] => stopBefore .invalidNumber []
  | b :: rest =>
    if b = ascii '0' then
      if digitNext rest then stopOn .invalidNumber rest else skipAfterInteger rest
    else if isDigit b then skipAfterInteger (rest.dropWhile isDigit)
    else stopBefore .invalidNumber rest

/-! ### Values -/

/-- Goes to the next item of an array, which a comma precedes unless it is the first. -/
def skipToItem (first : Bool) (input : Bytes) : Except Stop Bytes :=
  match input with
  | [] => stopOn .endInList []
  | b :: rest =>
    if first then .ok input
    else if b = ascii ',' then .ok rest
    else stopOn .commaOrListEndExpected input

/-- Goes past the next name of an object and its colon. -/
def skipToMember (first : Bool) (input : Bytes) : Except Stop Bytes := do
  let start ← match input with
    | [] => stopOn .endInObject []
    | b :: rest =>
      if first then .ok (b :: rest)
      else if b = ascii ',' then .ok (skipSpace rest)
      else stopOn .commaOrObjectEndExpected input
  match start with
  | [] => stopOn .endInObject []
  | b :: rest =>
    if b = ascii '"' then do
      let rest ← skipString rest
      colon rest
    else stopOn .keyExpected (b :: rest)

/-- Passes over the inside of an array or object and its closing bracket; `toNext` goes to the
    start of the next value. -/
def skipInside (close : Char) (atEnd : Issue) (toNext : Bool → Bytes → Except Stop Bytes)
    (item : Bytes → Except Stop Bytes) : Nat → Bool → Bytes → Except Stop Bytes
  | 0, _, _ => stopOn atEnd []
  | steps + 1, first, input =>
    match skipSpace input with
    | [] => stopOn atEnd []
    | b :: rest =>
      if b = ascii close then .ok rest
      else do
        let start ← toNext first (b :: rest)
        let rest ← item start
        skipInside close atEnd toNext item steps false rest

/-- Passes over one value.  Each level of nesting takes a byte at least, so as many levels as
    there are bytes suffice. -/
def skipLevels : Nat → Bytes → Except Stop Bytes
  | levels, input =>
    match skipSpace input with
    | [] => stopOn .endInValue []
    | b :: rest =>
      if b = ascii 'n' then literal ['u', 'l', 'l'] rest
      else if b = ascii 't' then literal ['r', 'u', 'e'] rest
      else if b = ascii 'f' then literal ['a', 'l', 's', 'e'] rest
      else if b = ascii '-' then skipNumber rest
      else if isDigit b then skipNumber (b :: rest)
      else if b = ascii '"' then skipString rest
      else if b = ascii '[' then
        match levels with
        | 0 => stopOn .endInList []
        | levels + 1 =>
          skipInside ']' .endInList skipToItem (skipLevels levels) (rest.length + 1) true rest
      else if b = ascii '\x7b' then
        match levels with
        | 0 => stopOn .endInObject []
        | levels + 1 =>
          skipInside '\x7d' .endInObject skipToMember (skipLevels levels) (rest.length + 1) true rest
      else stopOn .valueExpected (b :: rest)

/-- Passes over one value. -/
def skipValue (input : Bytes) : Except Stop Bytes := skipLevels (input.length + 1) input

/-- Scans a text that is to be one value. -/
def scan (text : Bytes) : Except Error Unit :=
  readAll (fun input => do let rest ← skipValue input; .ok ((), rest)) text

end NetDelegate.Json
