/-
# Files of a session

The command line reads files by path.  A path may hold empty parts and single dots, which
mean nothing, and double dots, which go up; resolving it leaves none of them.  Files are
kept by their resolved paths.

A path can also be followed part by part.  Then every part but the last must be a directory,
also one that a double dot leaves again.
-/
import ScriptNavigation.Value.Reader

namespace ScriptNavigation.CommandLine

/-! ## Paths -/

/-- The parts of a path that mean something. -/
def pathParts (path : String) : List String :=
  (path.splitOn "/").filter fun part => part != "" && part != "."

/-- Whether a path starts at the root of the file system. -/
def isAbsolute (path : String) : Bool := path.toList.head? == some '/'

/-- The slashes that a path starts with, as they are written: two stay two, and more than two
are one. -/
def leadingSlashes (path : String) : String :=
  match (path.toList.takeWhile (· == '/')).length with
  | 0 => ""
  | 2 => "//"
  | _ => "/"

/-- A path written without parts that mean nothing. -/
def plainPath (path : String) : String :=
  let text := leadingSlashes path ++ "/".intercalate (pathParts path)
  if text = "" then "." else text

/-- A path without double dots: how far it goes up from where it starts, and the parts from
there on. -/
structure Resolved where
  absolute : Bool
  up : Nat
  parts : List String
  deriving DecidableEq, Repr

namespace Resolved

/-- The path with one more part. -/
def enter (r : Resolved) (part : String) : Resolved :=
  if part = ".." then
    match r.parts with
    | [] => if r.absolute then r else { r with up := r.up + 1 }
    | _ :: _ => { r with parts := r.parts.dropLast }
  else { r with parts := r.parts ++ [part] }

/-- Where a path starts, before any of its parts. -/
def start (path : String) : Resolved := ⟨isAbsolute path, 0, []⟩

/-- The path that a text means, seen from the working directory. -/
def ofPath (path : String) : Resolved :=
  (pathParts path).foldl enter (start path)

/-- The directories that a path passes through. -/
def passed (path : String) : List Resolved :=
  let parts := pathParts path
  (List.range parts.length).map fun n => (parts.take n).foldl enter (start path)

/-- The path written from the root of the file system, given the working directory. -/
def text (r : Resolved) (directory : String) : String :=
  let base := if r.absolute then [] else (pathParts directory).reverse.drop r.up |>.reverse
  "/" ++ "/".intercalate (base ++ r.parts)

end Resolved

/-! ## Files -/

/-- What stands at a path. -/
inductive Entry where
  | file (bytes : Json.Bytes)
  | directory
  | nothing

/-- The files and directories that a session can see.  The working directory and those above
it need not be listed. -/
structure Files where
  entries : List (Resolved × Json.Bytes) := []
  directories : List Resolved := []

namespace Files

/-- What stands at a path. -/
def entry (fs : Files) (r : Resolved) : Entry :=
  match fs.entries.lookup r with
  | some bytes => .file bytes
  | none => if r.parts.isEmpty || fs.directories.contains r then .directory else .nothing

/-- Where some parts lead from a place, if all the places passed are directories. -/
def follow (fs : Files) (r : Resolved) : List String → Option Resolved
  | [] => some r
  | part :: rest =>
    match fs.entry r with
    | .directory => follow fs (r.enter part) rest
    | _ => none

/-- What stands at a path that is followed part by part. -/
def entryAlong (fs : Files) (path : String) : Entry :=
  match fs.follow (.start path) (pathParts path) with
  | some r => fs.entry r
  | none => .nothing

/-- The files without what stands at a resolved path; the directories on the way to it stay. -/
def drop (fs : Files) (r : Resolved) : Files :=
  { fs with entries := fs.entries.filter fun e => e.1 != r }

/-- The files without what stands at a path. -/
def remove (fs : Files) (path : String) : Files := fs.drop (.ofPath path)

/-- The files with one kept under a resolved path, in place of what stands there. -/
def keep (fs : Files) (r : Resolved) (bytes : Json.Bytes) : Files :=
  { fs with entries := (fs.drop r).entries ++ [(r, bytes)] }

/-- The files with the directories that a path passes through. -/
def pass (fs : Files) (path : String) : Files :=
  { fs with directories := fs.directories ++ Resolved.passed path }

/-- The files with one written, and with the directories that its path passes through. -/
def write (fs : Files) (path : String) (bytes : Json.Bytes) : Files :=
  (fs.pass path).keep (.ofPath path) bytes

/-- The files with one more directory, and with those that its path passes through. -/
def addDirectory (fs : Files) (path : String) : Files :=
  let fs := fs.pass path
  { fs with directories := fs.directories ++ [.ofPath path] }

end Files

end ScriptNavigation.CommandLine
