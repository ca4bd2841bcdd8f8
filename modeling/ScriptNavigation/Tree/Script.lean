/-
# Scripts

A script is a syntax tree with the source text and the file that it was parsed from.
-/
import ScriptNavigation.Tree.Walk
import ScriptNavigation.Text.Lines

namespace ScriptNavigation

/-- A parsed script. -/
structure Script where
  root : Node
  source : String
  file : Option String

namespace Script

/-- The script of a tree; without a source text the text of the root serves as one. -/
def ofRoot (root : Node) (source file : Option String) : Script :=
  ⟨root, source.getD root.extent.text, file⟩

/-- The root of the tree at its place. -/
def top (s : Script) : Occurrence := .root s.root

/-- The number of nodes of the tree. -/
def size (s : Script) : Nat := s.root.size

/-- The nodes of the tree in document order. -/
def nodes (s : Script) : List Occurrence := Walk.order [s.top]

/-- The text of a line of the source, counted from one; there is none outside the source. -/
def line (s : Script) (line : Int) : String :=
  String.ofList (Text.lineAt (Text.lines s.source.toList) line)

end Script

end ScriptNavigation
