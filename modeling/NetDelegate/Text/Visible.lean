/-
  NetDelegate/Text/Visible.lean
  =============================
  **What a terminal shows of a text.**  Control characters are not shown, and neither are the
  sequences by which a text gives orders to the terminal; these begin with an escape character.
  Tabs and line ends are shown, and cut a sequence short.
-/

namespace NetDelegate

/-- What a terminal is in the middle of. -/
inductive TerminalMode where
  | text
  /-- An escape character came last. -/
  | escape
  /-- A sequence of an escape character, blanks or marks, and a last character. -/
  | marks
  /-- A sequence with parameters. -/
  | parameters
  /-- A text for the title of the window. -/
  | title
  /-- A text for the terminal itself. -/
  | message
  deriving DecidableEq, Repr

namespace TerminalMode

/-- Control characters that are shown. -/
def isSpacing (c : Char) : Bool := c = '\t' || c = '\n' || c = '\x0c' || c = '\r'

/-- Where a character that is no control character leads to within a sequence. -/
def next (m : TerminalMode) (c : Char) : TerminalMode :=
  match m with
  | escape =>
    if c = '[' then parameters
    else if c = ']' then title
    else if c = 'P' || c = 'X' || c = '^' || c = '_' then message
    else if c.toNat < 0x30 then marks
    else text
  | marks => if c.toNat < 0x30 then marks else text
  | parameters => if c.toNat < 0x40 then parameters else text
  | other => other

/-- One character: the mode that follows, and whether the character is shown. -/
def step (m : TerminalMode) (c : Char) : TerminalMode × Bool :=
  if c = '\x1b' then (escape, false)
  else if c = '\x18' || c = '\x1a' then (text, false)
  else match m with
    | text => (text, isSpacing c || (' ' ≤ c && c ≠ '\x7f'))
    | message => (message, false)
    | title => (if c = '\x07' then text else title, false)
    | m =>
      if isSpacing c then (text, true)
      else if c < ' ' || '\x7f' ≤ c then (m, false)
      else (m.next c, false)

end TerminalMode

/-- The characters that are shown, from a mode on. -/
def visibleFrom : TerminalMode → List Char → List Char
  | _, [] => []
  | m, c :: cs =>
    match m.step c with
    | (m, true) => c :: visibleFrom m cs
    | (m, false) => visibleFrom m cs

/-- What is shown of a text. -/
def visible (s : String) : String := String.ofList (visibleFrom .text s.toList)

/-- The first line of a text. -/
def firstLine (s : String) : String :=
  let line := s.toList.takeWhile (· ≠ '\n')
  String.ofList (if line.getLast? = some '\r' then line.dropLast else line)

end NetDelegate
