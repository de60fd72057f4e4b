/-
  NetDelegate/Text/Normal.lean
  ============================
  **The composed normal form of a text.**  Letters with marks can be spelled in more than one
  way.  The normal form takes every character apart, puts the marks behind each letter in the
  order of their classes, and puts letters and marks together again where there is a character
  for both.
-/
import NetDelegate.Text.NormalTable

namespace NetDelegate

/-- The class of a mark, by which marks are ordered; zero for all other characters. -/
def combiningClass (c : Char) : Nat := combiningClasses.number c

/-! ### Hangul

A syllable is a lead, a vowel and perhaps a tail.  Syllables are numbered by these three. -/

namespace Hangul

/-- The number of the first syllable. -/
def firstSyllable : Nat := 0xAC00

/-- The number of the first lead. -/
def firstLead : Nat := 0x1100

/-- The number of the first vowel. -/
def firstVowel : Nat := 0x1161

/-- The number that stands for no tail; the tails follow. -/
def noTail : Nat := 0x11A7

/-- The number of leads. -/
def leads : Nat := 19

/-- The number of vowels. -/
def vowels : Nat := 21

/-- The number of tails, none included. -/
def tails : Nat := 28

/-- Is it the number of a syllable? -/
def isSyllable (n : Nat) : Bool :=
  firstSyllable ≤ n && n < firstSyllable + leads * vowels * tails

/-- The parts of a syllable. -/
def parts? (c : Char) : Option (List Char) :=
  if isSyllable c.toNat then
    let index := c.toNat - firstSyllable
    let lead := Char.ofNat (firstLead + index / (vowels * tails))
    let vowel := Char.ofNat (firstVowel + index / tails % vowels)
    let tail := index % tails
    some (if tail = 0 then [lead, vowel] else [lead, vowel, Char.ofNat (noTail + tail)])
  else none

/-- The syllable of a lead and a vowel, or of a syllable without tail and a tail. -/
def join? (a b : Char) : Option Char :=
  let x := a.toNat
  let y := b.toNat
  if firstLead ≤ x ∧ x < firstLead + leads ∧ firstVowel ≤ y ∧ y < firstVowel + vowels then
    some (Char.ofNat (firstSyllable + ((x - firstLead) * vowels + (y - firstVowel)) * tails))
  else if isSyllable x ∧ (x - firstSyllable) % tails = 0 ∧ noTail < y ∧ y < noTail + tails then
    some (Char.ofNat (x + (y - noTail)))
  else none

end Hangul

/-! ### Taking apart -/

/-- The parts of a character, in canonical order. -/
def canonicalParts (c : Char) : List Char :=
  if c.toNat < 0x80 then [c]
  else match Hangul.parts? c with
    | some parts => parts
    | none => (composedLetters.image? c).getD ((decomposedLetters.image? c).getD [c])

/-- Puts a character in front of a text, behind the marks of lower class. -/
def insertMark (c : Char) : List Char → List Char
  | [] => [c]
  | d :: ds =>
    if combiningClass d ≠ 0 ∧ combiningClass d < combiningClass c then d :: insertMark c ds
    else c :: d :: ds

/-- The characters of a text taken apart, in canonical order. -/
def decomposed (cs : List Char) : List Char := (cs.flatMap canonicalParts).foldr insertMark []

/-! ### Putting together -/

/-- The character for a character and a mark or letter behind it. -/
def joined? (a b : Char) : Option Char :=
  match Hangul.join? a b with
  | some c => some c
  | none => composedLetters.source? (canonicalParts a ++ [b])

/-- Is a character cut off from the letter by the marks between? -/
def isBlocked (marks : List Char) (c : Char) : Bool :=
  match marks.getLast? with
  | some m => combiningClass c ≤ combiningClass m
  | none => false

/-- Puts together a letter, the marks behind it that could not be joined, and the rest. -/
def composeFrom (letter : Char) (marks : List Char) : List Char → List Char
  | [] => letter :: marks
  | c :: cs =>
    match if isBlocked marks c then none else joined? letter c with
    | some whole => composeFrom whole marks cs
    | none =>
      if combiningClass c = 0 then letter :: (marks ++ composeFrom c [] cs)
      else composeFrom letter (marks ++ [c]) cs

/-- Puts a text together. -/
def composed : List Char → List Char
  | [] => []
  | c :: cs => composeFrom c [] cs

/-- The composed normal form of a text. -/
def normalForm (cs : List Char) : List Char := composed (decomposed cs)

end NetDelegate
