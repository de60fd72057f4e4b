/-
  NetDelegate/Duration.lean
  =========================
  **Spans of time, and their written forms.**  `Duration.parse` reads numbers with units, such as
  `1h 30min` or `2.5s`, and adds them up; every sum and product is checked against 64 bits, and
  a fraction counts only if it comes out even in nanoseconds or, for an hour and longer units, in
  seconds.  `Duration.text` writes a span in the largest unit that does not exceed it.
-/
import NetDelegate.Json.Number
import NetDelegate.Text.Blank
import NetDelegate.Text.Quoted

namespace NetDelegate

/-- Nanoseconds in a second. -/
def nanosPerSecond : Nat := 1000000000

/-- The first number that does not fit 64 bits. -/
def wordLimit : Nat := 0x10000000000000000

/-- A span of time. -/
structure Duration where
  seconds : Nat
  nanos : Nat
  seconds_lt : seconds < wordLimit
  nanos_lt : nanos < nanosPerSecond
  deriving DecidableEq

namespace Duration

/-- No time at all. -/
def zero : Duration := ⟨0, 0, by decide, by decide⟩

/-- The span of the given seconds and nanoseconds, if its seconds fit 64 bits. -/
def ofParts? (seconds nanos : Nat) : Option Duration :=
  if h : seconds + nanos / nanosPerSecond < wordLimit then
    some ⟨_, nanos % nanosPerSecond, h, Nat.mod_lt _ (by decide)⟩
  else none

/-- A span of whole seconds. -/
def ofSeconds? (seconds : Nat) : Option Duration := ofParts? seconds 0

/-- Is there no time at all? -/
def isZero (d : Duration) : Bool := d.seconds = 0 && d.nanos = 0

/-! ### Writing -/

/-- The first `places` digits after the point, without zeros at their end. -/
def fractionText (fraction places : Nat) : List Char :=
  let ds := Json.Number.decimalDigits fraction
  let padded := List.replicate (places - ds.length) '0' ++ ds
  match (padded.reverse.dropWhile (· = '0')).reverse with
  | [] => []
  | ds => '.' :: ds

/-- A whole number and a fraction of `places` digits, with a unit. -/
def measured (whole fraction places : Nat) (unit : String) : String :=
  String.ofList (Json.Number.decimalDigits whole ++ fractionText fraction places) ++ unit

/-- The written form: the largest unit of seconds, milliseconds, microseconds and nanoseconds
    that does not exceed the span. -/
def text (d : Duration) : String :=
  if 0 < d.seconds then measured d.seconds d.nanos 9 "s"
  else if 1000000 ≤ d.nanos then measured (d.nanos / 1000000) (d.nanos % 1000000) 6 "ms"
  else if 1000 ≤ d.nanos then measured (d.nanos / 1000) (d.nanos % 1000) 3 "µs"
  else measured d.nanos 0 0 "ns"

/-! ### What can be wrong -/

/-- Why a text is not a span of time.  Places are numbers of bytes before the character. -/
inductive Issue where
  | empty
  | numberExpected (offset : Nat)
  | invalidCharacter (offset : Nat)
  | unitNeeded (number : Nat)
  | unknownUnit (unit : String)
  | tooLarge
  /-- The sum does not fit, and shows only after its nanoseconds were carried. -/
  | overflow
  deriving DecidableEq, Repr

/-- The wording of an issue. -/
def Issue.text : Issue → String
  | empty => "value was empty"
  | numberExpected n => "expected number at " ++ String.ofList (Json.Number.decimalDigits n)
  | invalidCharacter n => "invalid character at " ++ String.ofList (Json.Number.decimalDigits n)
  | unitNeeded n =>
    let n := String.ofList (Json.Number.decimalDigits n)
    "time unit needed, for example " ++ n ++ "sec or " ++ n ++ "ms"
  | unknownUnit u =>
    "unknown time unit " ++ Quoted.quote u ++ ", supported units: ns, us/µs, ms, sec, min, " ++
      "hours, days, weeks, months, years (and few variations)"
  | tooLarge =>
    "number is too large or cannot be represented without a lack of precision " ++
      "(values below 1ns are not supported)"
  | overflow => "overflow in Duration::new"

/-! ### Units -/

/-- The units of time. -/
inductive Measure where
  | nanosecond
  | microsecond
  | millisecond
  | second
  | minute
  | hour
  | day
  | week
  | month
  | year
  deriving DecidableEq, Repr

namespace Measure

/-- The unit that a word names. -/
def ofWord? (word : String) : Option Measure :=
  if word ∈ ["nanos", "nsec", "ns"] then some nanosecond
  else if word ∈ ["usec", "us", "µs"] then some microsecond
  else if word ∈ ["millis", "msec", "ms"] then some millisecond
  else if word ∈ ["seconds", "second", "secs", "sec", "s"] then some second
  else if word ∈ ["minutes", "minute", "min", "mins", "m"] then some minute
  else if word ∈ ["hours", "hour", "hrs", "hr", "h"] then some hour
  else if word ∈ ["days", "day", "d"] then some day
  else if word ∈ ["weeks", "week", "wks", "wk", "w"] then some week
  else if word ∈ ["months", "month", "M"] then some month
  else if word ∈ ["years", "year", "yrs", "yr", "y"] then some year
  else none

/-- The length of a unit below a second, in nanoseconds. -/
def nanos? : Measure → Option Nat
  | nanosecond => some 1
  | microsecond => some 1000
  | millisecond => some 1000000
  | _ => none

/-- The length of a unit from a second up, in seconds; a month is a twelfth of a year, and a
    year has 365.25 days. -/
def seconds : Measure → Nat
  | minute => 60
  | hour => 3600
  | day => 86400
  | week => 604800
  | month => 2630016
  | year => 31557600
  | _ => 1

/-- Is a fraction of the unit counted in whole seconds? -/
def isCoarse : Measure → Bool
  | hour | day | week | month | year => true
  | _ => false

end Measure

/-! ### Sums -/

/-- A number, if it fits 64 bits. -/
def word (n : Nat) : Except Issue Nat := if n < wordLimit then .ok n else .error .tooLarge

/-- Adds seconds and nanoseconds.  A whole second of nanoseconds is carried only when there is
    more than that; a sum that fits without the carry and not with it is an overflow. -/
def plus (d : Duration) (seconds nanos : Nat) : Except Issue Duration := do
  let nanos ← word (d.nanos + nanos)
  let carry := if nanosPerSecond < nanos then nanos / nanosPerSecond else 0
  let nanos := if nanosPerSecond < nanos then nanos % nanosPerSecond else nanos
  let seconds ← word (seconds + carry)
  let seconds ← word (d.seconds + seconds)
  match ofParts? seconds nanos with
  | some d => .ok d
  | none => .error .overflow

/-- A decimal fraction, as numerator and denominator. -/
structure Fraction where
  numerator : Nat
  denominator : Nat

/-- The product with a fraction, if it is whole and fits 64 bits before the division. -/
def Fraction.times (f : Fraction) (n : Nat) : Except Issue Nat := do
  let product ← word (f.numerator * n)
  if product % f.denominator = 0 then .ok (product / f.denominator) else .error .tooLarge

/-- Adds a whole number of units. -/
def plusWhole (d : Duration) (n : Nat) (unit : Measure) : Except Issue Duration :=
  match unit.nanos? with
  | some size => do d.plus 0 (← word (n * size))
  | none => do d.plus (← word (n * unit.seconds)) 0

/-- Adds a fraction of a unit. -/
def plusFraction (d : Duration) (f : Fraction) (unit : Measure) : Except Issue Duration :=
  match unit.nanos? with
  | some size => do
    if size = 1 then .error .tooLarge else d.plus 0 (← f.times size)
  | none =>
    if unit.isCoarse then do d.plus (← f.times unit.seconds) 0
    else do d.plus 0 (← f.times (unit.seconds * nanosPerSecond))

/-! ### Reading -/

/-- A character with the number of bytes before it. -/
abbrev Placed := Nat × Char

/-- The bytes before and with a character. -/
def Placed.past (p : Placed) : Nat := p.1 + p.2.utf8Size

/-- The characters of a text with their places. -/
def placed (offset : Nat) : List Char → List Placed
  | [] => []
  | c :: cs => (offset, c) :: placed (offset + c.utf8Size) cs

/-- The value of a digit. -/
def digit? (c : Char) : Option Nat := if '0' ≤ c ∧ c ≤ '9' then some (c.toNat - 48) else none

/-- Letters of which the names of units are made. -/
def isUnitLetter (c : Char) : Bool := ('a' ≤ c && c ≤ 'z') || ('A' ≤ c && c ≤ 'Z') || c = 'µ'

/-- Reads the digits after a point; blanks between them do not count.  `offset` is the place to
    report: that of the point until a character has been read, then that of the next one. -/
def readFraction (offset numerator denominator : Nat) :
    List Placed → Except Issue (Fraction × List Placed)
  | [] =>
    if denominator = 1 then .error (.invalidCharacter offset)
    else .ok (⟨numerator, denominator⟩, [])
  | p :: rest =>
    match digit? p.2 with
    | some d => do
      let denominator ← word (denominator * 10)
      let numerator ← word (numerator * 10 + d)
      readFraction p.past numerator denominator rest
    | none =>
      if isBlank p.2 then readFraction p.past numerator denominator rest
      else if isUnitLetter p.2 then
        if denominator = 1 then .error (.invalidCharacter offset)
        else .ok (⟨numerator, denominator⟩, p :: rest)
      else .error (.invalidCharacter offset)

/-- Reads the digits of a number after the first, and its fraction; blanks between digits do not
    count. -/
def readNumber (n : Nat) : List Placed → Except Issue (Nat × Option Fraction × List Placed)
  | [] => .ok (n, none, [])
  | p :: rest =>
    match digit? p.2 with
    | some d => do readNumber (← word (n * 10 + d)) rest
    | none =>
      if isBlank p.2 then readNumber n rest
      else if isUnitLetter p.2 then .ok (n, none, p :: rest)
      else if p.2 = '.' then do
        let (f, rest) ← readFraction p.1 0 1 rest
        .ok (n, some f, rest)
      else .error (.invalidCharacter p.1)

/-- Reads the letters of a unit, which end before a digit or at a blank. -/
def readUnit : List Placed → Except Issue (List Char × List Placed)
  | [] => .ok ([], [])
  | p :: rest =>
    if (digit? p.2).isSome then .ok ([], p :: rest)
    else if isBlank p.2 then .ok ([], rest)
    else if isUnitLetter p.2 then do
      let (cs, rest) ← readUnit rest
      .ok (p.2 :: cs, rest)
    else .error (.invalidCharacter p.1)

/-- Adds a number of units to a span. -/
def plusTerm (d : Duration) (n : Nat) (f : Option Fraction) (unit : List Char) :
    Except Issue Duration :=
  match Measure.ofWord? (String.ofList unit) with
  | none =>
    .error (if unit = [] then .unitNeeded n else .unknownUnit (String.ofList unit))
  | some unit => do
    let d ← d.plusWhole n unit
    match f with
    | none => .ok d
    | some f => d.plusFraction f unit

/-- Reads numbers with units and adds them up, as long as there is text.  Every one takes a
    character at least, so as many steps as there are characters suffice. -/
def readTerms : Nat → Duration → List Placed → Except Issue Duration
  | 0, d, _ => .ok d
  | steps + 1, d, input =>
    match input.dropWhile fun p => isBlank p.2 with
    | [] => .ok d
    | p :: rest =>
      match digit? p.2 with
      | none => .error (.numberExpected ((input.head?.map (·.1)).getD 0))
      | some n => do
        let (n, f, rest) ← readNumber n rest
        let (unit, rest) ← readUnit rest
        let d ← d.plusTerm n f unit
        readTerms steps d rest

/-- Reads a span of time. -/
def parse (s : String) : Except Issue Duration :=
  if isBlankText s then .error .empty
  else readTerms (s.toList.length + 1) zero (placed 0 s.toList)

end Duration

end NetDelegate
