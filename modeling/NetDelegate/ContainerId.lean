/-
  NetDelegate/ContainerId.lean
  ============================
  **Container ids.**  An id names a scratch file, so it is one letter or digit followed by
  letters, digits, `_`, `.` and `-`: no separator, and no dot at its start, which keeps records
  apart from working files.
-/
import NetDelegate.Error
import NetDelegate.Text.Blank

namespace NetDelegate

/-- Checks that a text has a character that is not blank. -/
def checkNonBlank (field value : String) : Except Failure Unit :=
  if isBlankText value then
    failWith (.invalidValue field value "Value cannot be empty or whitespace-only")
  else .ok ()

namespace ContainerId

/-- An ASCII letter or digit. -/
def isFirst (c : Char) : Bool := c.isAlphanum

/-- A character that may follow the first. -/
def isLater (c : Char) : Bool := c.isAlphanum || c = '_' || c = '.' || c = '-'

/-- Does the text follow the grammar of ids? -/
def isValid (id : String) : Bool :=
  match id.toList with
  | [] => false
  | c :: cs => isFirst c && cs.all isLater

/-- Checks an id. -/
def check (id : String) : Except Failure Unit := do
  checkNonBlank "CNI_CONTAINERID" id
  if isValid id then .ok ()
  else failWith (.invalidValue "CNI_CONTAINERID" id
    ("Container id must start with an alphanumeric character and contain only alphanumerics, " ++
      "'_', '.' or '-'"))

end ContainerId

end NetDelegate
