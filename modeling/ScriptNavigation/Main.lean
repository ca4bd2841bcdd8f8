/-
# The program

Reads the files that the arguments name, runs the command, prints its report and ends with
its exit code.
-/
import ScriptNavigation.CommandLine.Session

namespace ScriptNavigation.CommandLine

/-- What stands at a place outside.  The error code 21 says that it is a directory; another
error of that kind, that a file is on the way to it; and what is there and cannot be read is
taken for a directory, too. -/
def look (location : String) : IO Entry := do
  try
    return .file (← IO.FS.readBinFile location).toList
  catch
    | .inappropriateType _ 21 _ => return .directory
    | .noFileOrDirectory .. | .inappropriateType .. => return .nothing
    | _ => return .directory

/-- The files with the one at a resolved path, seen from the working directory. -/
def lookResolved (directory : String) (fs : Files) (path : String) : IO Files := do
  let r := Resolved.ofPath path
  match ← look (r.text directory) with
  | .file bytes => return fs.keep r bytes
  | .directory => return { fs with directories := fs.directories ++ [r] }
  | .nothing => return fs

/-- The files with the one to which a path leads. -/
def lookAlong (fs : Files) (path : String) : IO Files := do
  match ← look path with
  | .file bytes => return fs.write path bytes
  | .directory => return fs.addDirectory path
  | .nothing => return fs

/-- The files that arguments name: the tree by its resolved path, and the aliases by the path
as it is given. -/
def readFiles (directory : String) (arguments : List String) : IO Files := do
  match requestOf arguments with
  | .ok (.invoke i) =>
    let fs ← lookResolved directory {} i.tree
    i.aliases.toList.foldlM lookAlong fs
  | _ => return {}

end ScriptNavigation.CommandLine

open ScriptNavigation.CommandLine in
/-- Runs the program on its arguments. -/
def main (arguments : List String) : IO UInt32 := do
  let directory := (← IO.currentDir).toString
  let files ← readFiles directory arguments
  let (outcome, _) := run files ⟨directory, []⟩ arguments
  IO.print outcome.printed
  IO.eprint outcome.ending.complaint
  return outcome.ending.exitCode.toUInt32
