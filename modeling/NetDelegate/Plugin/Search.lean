/-
  NetDelegate/Plugin/Search.lean
  ==============================
  **Looking for a plugin.**  A plugin is a file that stands directly in one of the folders of the
  search path; the first such folder counts.
-/
import NetDelegate.FileSystem.Path
import NetDelegate.Plugin.Context

namespace NetDelegate.Plugin

/-- Can the text be the name of a file in a folder? -/
def isFileName (name : String) : Bool :=
  name ≠ "" && !name.toList.contains '/' && name ≠ "." && name ≠ ".."

/-- The path of a plugin in a folder. -/
def pathIn (folder name : String) : String :=
  if folder = "" then name
  else if folder.toList.getLast? = some '/' then folder ++ name
  else folder ++ "/" ++ name

/-- The file of a plugin, if one of the folders has it. -/
def find (isFile : Bytes → Bool) (name : String) (path : SearchPath) : Except Error String :=
  let missing : Error := .pluginNotFound name path.text
  if isFileName name then
    match (path.map fun folder => pathIn folder name).find? fun p => isFile (utf8 p) with
    | some p => .ok p
    | none => .error missing
  else .error missing

end NetDelegate.Plugin
