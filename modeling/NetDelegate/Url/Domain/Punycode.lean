/-
  NetDelegate/Url/Domain/Punycode.lean
  ====================================
  **Parts of names in ASCII.**  A text is written as its ASCII characters, a dash, and the other
  characters as insertions.  These are made in the order of the characters' numbers, and of the
  places for the same one.  Each is written as one number: how many pairs of a character and a
  place are passed over since the insertion before.  The digits of these numbers are chosen so
  that small ones are short, where small is what the numbers before make likely.
-/
import NetDelegate.Text.Utf8

namespace NetDelegate.Punycode

/-! ### Digits -/

/-- The digit of a number below 36: first the letters, then the digits. -/
def digit (n : Nat) : Char := Char.ofNat (if n < 26 then n + 0x61 else n + 0x16)

/-- The number of a digit. -/
def value? (c : Char) : Option Nat :=
  let n := c.toNat
  if 0x61 ≤ n ∧ n ≤ 0x7A then some (n - 0x61)
  else if 0x41 ≤ n ∧ n ≤ 0x5A then some (n - 0x41)
  else if 0x30 ≤ n ∧ n ≤ 0x39 then some (n - 0x16)
  else none

/-- The least value of a digit that is not the last of its number; `place` is the number of
    digits before. -/
def threshold (bias place : Nat) : Nat := max 1 (min 26 (36 * (place + 1) - bias))

theorem threshold_bounds (bias place : Nat) :
    1 ≤ threshold bias place ∧ threshold bias place ≤ 26 := by
  unfold threshold
  omega

/-- The digits of a number from a place on. -/
def digits (bias place n : Nat) : List Char :=
  let t := threshold bias place
  if n < t then [digit n]
  else digit (t + (n - t) % (36 - t)) :: digits bias (place + 1) ((n - t) / (36 - t))
termination_by n
decreasing_by
  have h := threshold_bounds bias place
  exact Nat.lt_of_le_of_lt (Nat.div_le_self _ _) (by omega)

/-- The largest number that a reader has to hold. -/
def maxNumber : Nat := 0xFFFFFFFF

/-- Reads a number from a place on, where a digit counts `weight`-fold. -/
def readNumber (bias place weight : Nat) : List Char → Option (Nat × List Char)
  | [] => none
  | c :: cs =>
    match value? c with
    | none => none
    | some d =>
      let t := threshold bias place
      if maxNumber < d * weight then none
      else if d < t then some (d * weight, cs)
      else if maxNumber < weight * (36 - t) then none
      else (readNumber bias (place + 1) (weight * (36 - t)) cs).map fun (n, rest) =>
        (d * weight + n, rest)

/-- A number takes text. -/
theorem readNumber_length {bias place weight n : Nat} {cs rest : List Char}
    (h : readNumber bias place weight cs = some (n, rest)) : rest.length < cs.length := by
  induction cs generalizing place weight n with
  | nil => simp [readNumber] at h
  | cons c cs ih =>
    simp only [readNumber] at h
    split at h
    · simp at h
    · split at h
      · simp at h
      · split at h
        · simp only [Option.some.injEq, Prod.mk.injEq] at h
          simp [← h.2]
        · split at h
          · simp at h
          · simp only [Option.map_eq_some_iff, Prod.exists, Prod.mk.injEq] at h
            obtain ⟨m, r, hr, _, rfl⟩ := h
            have := ih hr
            simp only [List.length_cons]
            omega

/-! ### Bias -/

/-- Divides a number until it is below 456; gives the quotient and the number of divisions. -/
def scaled (n : Nat) : Nat × Nat :=
  if n ≤ 455 then (n, 0)
  else
    let (q, count) := scaled (n / 35)
    (q, count + 1)
termination_by n
decreasing_by omega

/-- The bias behind a number; `length` is the length of the text after the insertion. -/
def adapted (first : Bool) (n length : Nat) : Nat :=
  let n := if first then n / 700 else n / 2
  let (q, count) := scaled (n + n / length)
  36 * count + 36 * q / (q + 38)

/-- The bias in front of the first number. -/
def initialBias : Nat := 72

/-- The least number of a character that is inserted. -/
def firstInserted : Nat := 0x80

/-! ### Writing -/

/-- An insertion: the character's number, its place, and the length of the text before. -/
structure Insertion where
  code : Nat
  place : Nat
  length : Nat

/-- Is the character at index `j` there before the one with number `code` at index `i` is
    inserted? -/
def precedes (code i : Nat) (other : Char × Nat) : Bool :=
  other.1.toNat < code || (other.1.toNat = code && other.2 < i)

/-- The insertion of the character at an index of a text. -/
def insertionAt (text : List (Char × Nat)) (c : Char × Nat) : Insertion :=
  let present := text.filter (precedes c.1.toNat c.2)
  ⟨c.1.toNat, (present.filter fun other => other.2 < c.2).length, present.length⟩

/-- The insertions that make a text from its ASCII characters, in order. -/
def insertions (cs : List Char) : List Insertion :=
  let text := cs.zipIdx
  let inserted := (text.map (insertionAt text)).filter fun i => firstInserted ≤ i.code
  inserted.mergeSort fun a b => a.length ≤ b.length

/-- The pairs passed over between two insertions, from the pair of `code` and `place` on. -/
def distance (code place : Nat) (i : Insertion) : Nat :=
  (i.code - code) * (i.length + 1) + i.place - place

/-- Writes insertions, from the pair of `code` and `place` on. -/
def writeFrom (bias code place : Nat) (first : Bool) : List Insertion → List Char
  | [] => []
  | i :: is =>
    let n := distance code place i
    digits bias 0 n ++ writeFrom (adapted first n (i.length + 1)) i.code (i.place + 1) false is

/-- Writes a text. -/
def encode (cs : List Char) : List Char :=
  let ascii := cs.filter fun c => c.toNat < firstInserted
  ascii ++ (if ascii = [] then [] else ['-']) ++
    writeFrom initialBias firstInserted 0 true (insertions cs)

/-! ### Reading -/

/-- The character with a number, if there is one. -/
def char? (n : Nat) : Option Char := if n.isValidChar then some (Char.ofNat n) else none

/-- Makes the insertions that are written, from the pair of `code` and `place` on. -/
def readFrom (bias code place : Nat) (first : Bool) (text : List Char) (cs : List Char) :
    Option (List Char) :=
  if cs = [] then some text
  else match _h : readNumber bias 0 1 cs with
    | none => none
    | some (n, rest) =>
      let length := text.length + 1
      let code := code + (place + n) / length
      let place := (place + n) % length
      match char? code with
      | none => none
      | some c =>
        readFrom (adapted first n length) code (place + 1) false (text.insertIdx place c) rest
termination_by cs.length
decreasing_by exact readNumber_length _h

/-- Reads a text. -/
def decode? (cs : List Char) : Option (List Char) :=
  let tail := (cs.reverse.takeWhile (· ≠ '-')).reverse
  let ascii := cs.take (cs.length - tail.length - 1)
  if ascii.any fun c => firstInserted ≤ c.toNat then none
  else if ascii = [] then readFrom initialBias firstInserted 0 true [] cs
  else readFrom initialBias firstInserted 0 true ascii tail

end NetDelegate.Punycode
