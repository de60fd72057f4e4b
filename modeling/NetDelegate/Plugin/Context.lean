/-
  NetDelegate/Plugin/Context.lean
  ===============================
  **What every plugin is told about the container,** and where plugins are looked for.  A search
  path is a list of folders, written with colons between them.
-/
import NetDelegate.Command
import NetDelegate.Text.Split
import NetDelegate.Text.Utf8

namespace NetDelegate

/-- A list of folders. -/
abbrev SearchPath := List String

namespace SearchPath

/-- The separator of the folders. -/
def separator : Char := ':'

/-- Reads a search path; empty pieces do not count. -/
def ofText (s : String) : SearchPath :=
  ((splitWhere (· = separator) s.toList).filter (· ≠ [])).map String.ofList

/-- The folders with separators between them. -/
def text (p : SearchPath) : String :=
  String.ofList ([separator].intercalate (p.map String.toList))

/-- The written form that is read back as the same folders; there is none if a folder has the
    separator in its name. -/
def joined? (p : SearchPath) : Option String :=
  if p.any fun folder => folder.toList.contains separator then none else some p.text

end SearchPath

/-- What is told about a container. -/
structure Context where
  containerId : String
  netns : String
  ifname : String
  args : String
  path : SearchPath
  deriving DecidableEq, Repr

/-- One request to a plugin. -/
structure Call where
  command : Command
  plugin : String
  config : Bytes
  context : Context
  deriving DecidableEq, Repr

end NetDelegate
