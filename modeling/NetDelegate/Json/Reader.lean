/-
  NetDelegate/Json/Reader.lean
  ============================
  **Reading JSON.**  `readValue` reads one value; arrays and objects may be nested `maxDepth` levels
  deep.  `elements` and `pairs` read the inside of an array and of an object with any reader for
  the items, so that typed data (`NetDelegate.Json.Record`) is read by the same rules.
-/
import NetDelegate.Json.Token

namespace NetDelegate.Json

/-- The number of arrays and objects that may be open at a time. -/
def maxDepth : Nat := 127

/-! ### Arrays and objects -/

/-- Goes to the next item of an array, which a comma precedes unless it is the first. -/
def nextItem (first : Bool) (input : Bytes) : Except Stop Bytes :=
  match input with
  | [] => stopOn .endInList []
  | b :: rest =>
    if first then .ok input
    else if b = ascii ',' then
      match skipSpace rest with
      | [] => stopOn .endInValue []
      | c :: rest => if c = ascii ']' then stopOn .trailingComma (c :: rest) else .ok (c :: rest)
    else stopOn .commaOrListEndExpected input

/-- Reads the items of an array after its bracket, and the closing bracket.  Every item takes a
    byte at least, so as many steps as there are bytes suffice. -/
def elements {α : Type} (item : Bytes → Except Stop (α × Bytes)) :
    Nat → Bool → Bytes → Except Stop (List α × Bytes)
  | 0, _, _ => stopOn .endInList []
  | steps + 1, first, input =>
    match skipSpace input with
    | [] => stopOn .endInList []
    | b :: rest =>
      if b = ascii ']' then .ok ([], rest)
      else do
        let start ← nextItem first (b :: rest)
        let (v, rest) ← item start
        let (vs, rest) ← elements item steps false rest
        .ok (v :: vs, rest)

/-- Goes past the quote that opens the next name of an object; a comma precedes it unless it is
    the first. -/
def nextName (first : Bool) (input : Bytes) : Except Stop Bytes :=
  match input with
  | [] => stopOn .endInObject []
  | b :: rest =>
    if first then
      if b = ascii '"' then .ok rest else stopOn .keyExpected input
    else if b = ascii ',' then
      match skipSpace rest with
      | [] => stopOn .endInValue []
      | c :: rest =>
        if c = ascii '"' then .ok rest
        else if c = ascii '\x7d' then stopOn .trailingComma (c :: rest)
        else stopOn .keyExpected (c :: rest)
    else stopOn .commaOrObjectEndExpected input

/-- Goes past the colon after a name. -/
def colon (input : Bytes) : Except Stop Bytes :=
  match skipSpace input with
  | [] => stopOn .endInObject []
  | b :: rest => if b = ascii ':' then .ok rest else stopOn .colonExpected (b :: rest)

/-- Reads the members of an object after its brace, and the closing brace. -/
def pairs {α : Type} (item : Bytes → Except Stop (α × Bytes)) :
    Nat → Bool → Bytes → Except Stop (List (String × α) × Bytes)
  | 0, _, _ => stopOn .endInObject []
  | steps + 1, first, input =>
    match skipSpace input with
    | [] => stopOn .endInObject []
    | b :: rest =>
      if b = ascii '\x7d' then .ok ([], rest)
      else do
        let start ← nextName first (b :: rest)
        let (name, rest) ← stringBody start
        let rest ← colon rest
        let (v, rest) ← item rest
        let (vs, rest) ← pairs item steps false rest
        .ok ((name, v) :: vs, rest)

/-! ### Values -/

/-- Reads one value, with `depth` more levels of nesting allowed. -/
def readValue : Nat → Bytes → Except Stop (Json × Bytes)
  | depth, input =>
    match skipSpace input with
    | [] => stopOn .endInValue []
    | b :: rest =>
      if b = ascii 'n' then do
        let rest ← literal ['u', 'l', 'l'] rest
        .ok (.null, rest)
      else if b = ascii 't' then do
        let rest ← literal ['r', 'u', 'e'] rest
        .ok (.bool true, rest)
      else if b = ascii 'f' then do
        let rest ← literal ['a', 'l', 's', 'e'] rest
        .ok (.bool false, rest)
      else if b = ascii '-' then do
        let (n, rest) ← numberBody true rest
        .ok (.number n, rest)
      else if isDigit b then do
        let (n, rest) ← numberBody false (b :: rest)
        .ok (.number n, rest)
      else if b = ascii '"' then do
        let (s, rest) ← stringBody rest
        .ok (.string s, rest)
      else if b = ascii '[' then
        match depth with
        | 0 => stopOn .tooDeep (b :: rest)
        | depth + 1 => do
          let (vs, rest) ← elements (readValue depth) (rest.length + 1) true rest
          .ok (.array vs, rest)
      else if b = ascii '\x7b' then
        match depth with
        | 0 => stopOn .tooDeep (b :: rest)
        | depth + 1 => do
          let (ms, rest) ← pairs (readValue depth) (rest.length + 1) true rest
          .ok (.object (ofPairs ms), rest)
      else stopOn .valueExpected (b :: rest)

/-! ### Typed data -/

/-- Says what stands where data of another type was wanted.  A literal, number or string is read
    to its end; an array or an object is not entered. -/
def unexpected {α : Type} (expected : String) (input : Bytes) : Except Stop α :=
  let wrong (found : Found) (rest : Bytes) : Except Stop α :=
    stopBefore (.invalidType found expected) rest
  match input with
  | [] => stopOn .valueExpected []
  | b :: rest =>
    if b = ascii 'n' then do
      let rest ← literal ['u', 'l', 'l'] rest
      wrong .null rest
    else if b = ascii 't' then do
      let rest ← literal ['r', 'u', 'e'] rest
      wrong (.boolean true) rest
    else if b = ascii 'f' then do
      let rest ← literal ['a', 'l', 's', 'e'] rest
      wrong (.boolean false) rest
    else if b = ascii '-' then do
      let (n, rest) ← numberBody true rest
      wrong (.number n) rest
    else if isDigit b then do
      let (n, rest) ← numberBody false (b :: rest)
      wrong (.number n) rest
    else if b = ascii '"' then do
      let (s, rest) ← stringBody rest
      wrong (.string s) rest
    else if b = ascii '[' then wrong .array input
    else if b = ascii '\x7b' then wrong .object input
    else stopOn .valueExpected input

/-- Reads a string. -/
def readString (input : Bytes) : Except Stop (String × Bytes) :=
  match skipSpace input with
  | [] => stopOn .endInValue []
  | b :: rest => if b = ascii '"' then stringBody rest else unexpected "a string" (b :: rest)

/-- Reads a string or `null`. -/
def readString? (input : Bytes) : Except Stop (Option String × Bytes) :=
  match skipSpace input with
  | [] => stopOn .endInValue []
  | b :: rest =>
    if b = ascii 'n' then do
      let rest ← literal ['u', 'l', 'l'] rest
      .ok (none, rest)
    else do
      let (s, rest) ← readString (b :: rest)
      .ok (some s, rest)

/-- Reads a truth value. -/
def readBool (input : Bytes) : Except Stop (Bool × Bytes) :=
  match skipSpace input with
  | [] => stopOn .endInValue []
  | b :: rest =>
    if b = ascii 't' then do
      let rest ← literal ['r', 'u', 'e'] rest
      .ok (true, rest)
    else if b = ascii 'f' then do
      let rest ← literal ['a', 'l', 's', 'e'] rest
      .ok (false, rest)
    else unexpected "a boolean" (b :: rest)

/-- Reads a whole number up to `max`; `expected` names its type in messages. -/
def readWhole (max : Nat) (expected : String) (input : Bytes) : Except Stop (Nat × Bytes) :=
  let check : Number × Bytes → Except Stop (Nat × Bytes)
    | (.natural n, rest) =>
      if n ≤ max then .ok (n, rest)
      else stopBefore (.invalidValue (.number (.natural n)) expected) rest
    | (.negative n, rest) => stopBefore (.invalidValue (.number (.negative n)) expected) rest
    | (.real x, rest) => stopBefore (.invalidType (.number (.real x)) expected) rest
  match skipSpace input with
  | [] => stopOn .endInValue []
  | b :: rest =>
    if b = ascii '-' then do check (← numberBody true rest)
    else if isDigit b then do check (← numberBody false (b :: rest))
    else unexpected expected (b :: rest)

/-- Reads an object with the given reader for its members. -/
def readObject {α : Type} (item : Nat → Bytes → Except Stop (α × Bytes)) (depth : Nat)
    (input : Bytes) : Except Stop (List (String × α) × Bytes) :=
  match skipSpace input with
  | [] => stopOn .endInValue []
  | b :: rest =>
    if b = ascii '\x7b' then
      match depth with
      | 0 => stopOn .tooDeep (b :: rest)
      | depth + 1 => pairs (item depth) (rest.length + 1) true rest
    else unexpected "a map" (b :: rest)

/-- Reads an array with the given reader for its items. -/
def readArray {α : Type} (item : Nat → Bytes → Except Stop (α × Bytes)) (depth : Nat)
    (input : Bytes) : Except Stop (List α × Bytes) :=
  match skipSpace input with
  | [] => stopOn .endInValue []
  | b :: rest =>
    if b = ascii '[' then
      match depth with
      | 0 => stopOn .tooDeep (b :: rest)
      | depth + 1 => elements (item depth) (rest.length + 1) true rest
    else unexpected "a sequence" (b :: rest)

/-! ### Whole texts -/

/-- Reads a whole text: nothing but blanks may follow what the reader takes. -/
def readAll {α : Type} (reader : Bytes → Except Stop (α × Bytes)) (text : Bytes) :
    Except Error α :=
  let outcome : Except Stop α := do
    let (v, rest) ← reader text
    match skipSpace rest with
    | [] => .ok v
    | rest => stopOn .trailingCharacters rest
  outcome.mapError (·.locate text)

/-- Reads a text that is one value. -/
def parse (text : Bytes) : Except Error Json := readAll (readValue maxDepth) text

end NetDelegate.Json
