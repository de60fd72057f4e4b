/-
  NetDelegate/Json/Record.lean
  ============================
  **Records with named fields.**  A `Record` lists the fields of a structure; `Record.read` reads
  an object by it.  A name that is no field is passed over with its value, a field that comes up
  twice is an error, and so is the lack of a field without a default.  An array is read as the
  values of the fields in their order; defaults stand in for values that lack at its end.
-/
import NetDelegate.Json.Skip

namespace NetDelegate.Json

/-- A field of a structure that is being read; `σ` holds what has been read so far. -/
structure Field (σ : Type) where
  /-- The name of the field in the text. -/
  name : String
  /-- Must the text have it? -/
  required : Bool
  /-- Has it been read? -/
  isSet : σ → Bool
  /-- Reads its value, with the given levels of nesting allowed. -/
  read : Nat → σ → Bytes → Except Stop (σ × Bytes)

/-- A structure that is read from an object. -/
structure Record (σ : Type) where
  /-- The name in messages. -/
  title : String
  fields : List (Field σ)
  /-- The state before anything has been read. -/
  initial : σ

namespace Record

variable {σ : Type}

/-- Makes a field from a reader of its value and a way to store it. -/
def field {α : Type} (name : String) (required : Bool) (get : σ → Option α)
    (set : σ → α → σ) (reader : Nat → Bytes → Except Stop (α × Bytes)) : Field σ where
  name := name
  required := required
  isSet s := (get s).isSome
  read depth s input := do
    let (v, rest) ← reader depth input
    .ok (set s v, rest)

/-- The name in messages, with the number of fields. -/
def titleWithCount (R : Record σ) : String :=
  let n := R.fields.length
  R.title ++ " with " ++ String.ofList (Number.decimalDigits n) ++
    if n = 1 then " element" else " elements"

/-- Takes the closing bracket if it comes next: an error of the whole record is reported after
    it. -/
def afterClose (close : Char) (input : Bytes) : Bytes :=
  match skipSpace input with
  | [] => []
  | b :: rest => if b = ascii close then rest else b :: rest

/-- The first required field that has not been read. -/
def missing? (R : Record σ) (s : σ) : Option String :=
  (R.fields.find? fun f => f.required && !f.isSet s).map (·.name)

/-- Reads the members of an object after its brace, and the closing brace.  Every member takes
    a byte at least, so as many steps as there are bytes suffice. -/
def readMembers (R : Record σ) (depth : Nat) :
    Nat → Bool → σ → Bytes → Except Stop (σ × Bytes)
  | 0, _, _, _ => stopOn .endInObject []
  | steps + 1, first, s, input =>
    match skipSpace input with
    | [] => stopOn .endInObject []
    | b :: rest =>
      if b = ascii '\x7d' then
        match R.missing? s with
        | some name => stopBefore (.missingField name) rest
        | none => .ok (s, rest)
      else do
        let start ← nextName first (b :: rest)
        let (name, rest) ← stringBody start
        match R.fields.find? fun f => f.name = name with
        | none => do
          let rest ← colon rest
          let rest ← skipValue rest
          readMembers R depth steps false s rest
        | some f =>
          if f.isSet s then stopBefore (.duplicateField name) (afterClose '\x7d' rest)
          else do
            let rest ← colon rest
            let (s, rest) ← f.read depth s rest
            readMembers R depth steps false s rest

/-- Closes an array of field values: nothing but the bracket may follow. -/
def closeArray (input : Bytes) : Except Stop Bytes :=
  match skipSpace input with
  | [] => stopOn .endInList []
  | b :: rest =>
    if b = ascii ']' then .ok rest
    else if b = ascii ',' then
      match skipSpace rest with
      | [] => stopOn .trailingCharacters []
      | c :: rest =>
        stopOn (if c = ascii ']' then .trailingComma else .trailingCharacters) (c :: rest)
    else stopOn .trailingCharacters (b :: rest)

/-- Reads the values of the fields from an array after its bracket; `index` is the number of
    fields before. -/
def readValues (R : Record σ) (depth : Nat) :
    List (Field σ) → Nat → σ → Bytes → Except Stop (σ × Bytes)
  | [], _, s, input => do
    let rest ← closeArray input
    .ok (s, rest)
  | f :: fs, index, s, input =>
    match skipSpace input with
    | [] => stopOn .endInList []
    | b :: rest =>
      if b = ascii ']' then
        if f.required then stopBefore (.invalidLength index R.titleWithCount) rest
        else readValues R depth fs (index + 1) s input
      else do
        let start ← nextItem (index = 0) (b :: rest)
        let (s, rest) ← f.read depth s start
        readValues R depth fs (index + 1) s rest

/-- Reads a record. -/
def read (R : Record σ) (depth : Nat) (input : Bytes) : Except Stop (σ × Bytes) :=
  match skipSpace input with
  | [] => stopOn .endInValue []
  | b :: rest =>
    if b = ascii '[' then
      match depth with
      | 0 => stopOn .tooDeep (b :: rest)
      | depth + 1 => readValues R depth R.fields 0 R.initial rest
    else if b = ascii '\x7b' then
      match depth with
      | 0 => stopOn .tooDeep (b :: rest)
      | depth + 1 => readMembers R depth (rest.length + 1) true R.initial rest
    else unexpected R.title (b :: rest)

/-- Reads a text that is one record. -/
def parse (R : Record σ) (text : Bytes) : Except Error σ := readAll (R.read maxDepth) text

end Record

end NetDelegate.Json
