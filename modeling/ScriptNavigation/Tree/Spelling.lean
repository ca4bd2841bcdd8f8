/-
# Nodes spelled out in messages

A message may need the text of a value that holds a node.  A node is spelled out by the
name of its kind with its extent and its fields in brackets, each with its key.
-/
import ScriptNavigation.Tree.Node
import ScriptNavigation.Value.Display

namespace ScriptNavigation

namespace Extent

/-- An extent spelled out. -/
def spelled (e : Extent String) : String :=
  let file := match e.file with
    | some file => Text.quoted file
    | none => "None"
  s!"Extent(start_line={e.start.line}, start_column={e.start.column}, " ++
    s!"end_line={e.stop.line}, end_column={e.stop.column}, " ++
    "text=" ++ Text.quoted e.text ++ ", file=" ++ file ++ ")"

end Extent

namespace NodeKind

/-- The name of a kind where a node of it is spelled out. -/
def spelledName : NodeKind → String
  | generic => "GenericNode"
  | k => k.name

end NodeKind

namespace Node

/-- A node spelled out down to a given depth. -/
def spelledWithin : (depth : Nat) → Node → String
  | 0, _ => "..."
  | depth + 1, n =>
    let parts := n.fields.map fun f =>
      f.1.key ++ "=" ++ f.2.spelled (spelledWithin depth) .squareThenRound
    n.kind.spelledName ++ "(" ++ ", ".intercalate (("extent=" ++ n.extent.spelled) :: parts) ++ ")"

/-- A node spelled out with all that is below it. -/
def spelled (n : Node) : String := spelledWithin n.size n

end Node

end ScriptNavigation
