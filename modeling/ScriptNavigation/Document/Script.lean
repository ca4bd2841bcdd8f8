/-
# Documents of syntax trees

A script comes as a JSON object with the tree under `root`, and with the version, the file
and the source text beside it.  The object of a node has a `kind`, and either an `extent`
of lines and columns or a `span` of two offsets into the source.  Its other keys are the
fields of the node.

Only the outer object and the extents are checked.  A field takes whatever value stands
there, with every object that has a `kind` turned into a node; such objects are looked
for inside arrays.  A node of an unknown kind keeps the nodes found anywhere below it, in
the order of the keys, so that what it contains is not lost.

There is room for so many levels of nesting only.  Each array or object that is gone into
takes one of them, and the document is not loaded where none is left.
-/
import ScriptNavigation.Document.Place
import ScriptNavigation.Tree.Script

namespace ScriptNavigation

/-! ## The outer object -/

/-- A document of a syntax tree, before its nodes are built. -/
structure Document where
  root : Members
  file : Option String
  source : Option String

namespace Document

/-- The form of a document. -/
def form : Form :=
  .record
    [("root", .mapOf .anything), ("version", .text), ("file", .textOrNull),
      ("source", .textOrNull)]
    ["root"]

/-- The document that a value of the right form is. -/
def ofChecked (v : Json) : Document :=
  match v with
  | .object ms =>
    { root := match ms.lookup "root" with
        | some (.object root) => root
        | _ => []
      file := textUnder? ms "file"
      source := textUnder? ms "source" }
  | _ => ⟨[], none, none⟩

/-- The document that a JSON value is, if the value has the form of one. -/
def ofJson (v : Json) : Result Document :=
  match form.check [] v with
  | .ok () => .ok (ofChecked v)
  | .error m => .error (.unreadable (.mismatch m))

/-- The levels of nesting for which there is room unless something else is said.  Building
the nodes takes two frames for a level, from a stack that has a thousand of them, some of
which are taken already. -/
def usualRoom : Nat := 480

/-- The document that the bytes of a JSON text are.  Reading them takes one frame for a level,
so there is room for twice as many levels as when the nodes are built. -/
def ofBytes (bytes : Json.Bytes) (room : Nat := usualRoom) : Result Document :=
  match Json.decode form bytes (some (2 * room)) with
  | .ok v => .ok (ofChecked v)
  | .error why => .error (.unreadable why)

end Document

/-! ## Nodes -/

namespace Node

/-- A plain JSON value as the value of a field. -/
def plain (v : Json) : Value Node :=
  v.map fun e => nomatch e

/-- The kind named in the object of a node, if it is one of the set. -/
def knownKind? (ms : Members) : Option NodeKind :=
  match ms.lookup "kind" with
  | some (.str name) => (NodeKind.ofName? name).filter (· != .generic)
  | _ => none

/-- The name that a node of an unknown kind keeps. -/
def originalKind (ms : Members) : String :=
  Json.display ((ms.lookup "original_kind").getD (valueUnder ms "kind"))

/-- The keys of a node that hold no nodes. -/
def isPlaceKey (key : String) : Bool :=
  key == "extent" || key == "span"

/-- The values of the fields of a kind: those read from the document where there are any,
and the defaults elsewhere. -/
def fieldsFrom (read : List (String × Result (Value Node))) :
    List (Field × FieldType) → Result (List (Field × Value Node))
  | [] => .ok []
  | (f, type) :: rest => do
    let v ← (read.lookup f.key).getD (.ok type.default)
    let vs ← fieldsFrom read rest
    return (f, v) :: vs

/-- The values read under the keys that may hold nodes, in order. -/
def searched : List (String × Result (Value Node)) → Result (List (Value Node))
  | [] => .ok []
  | (key, v) :: rest =>
    if isPlaceKey key then searched rest
    else do
      let first ← v
      let others ← searched rest
      return first :: others

/-- The node of an object.  Its members are read by `read`, which is told whether objects
without a kind are to be searched for nodes. -/
def ofMembers (c : ExtentSource) (ms : Members)
    (read : Bool → List (String × Result (Value Node))) : Result Node := do
  let extent ← c.ofNode ms
  match knownKind? ms with
  | some kind => return .mk kind extent (← fieldsFrom (read false) kind.schema)
  | none =>
    let found ← searched (read true)
    let nested := (Value.nodesOfAll found).map Value.node
    return .mk .generic extent
      [(.originalKind, .str (originalKind ms)), (.nested, .array nested)]

/-- Goes into an array or an object, if there is room for one more level of nesting.  The
rest of the room is left for what is inside. -/
def enter {α : Type} (room : Nat) (inside : (rest : Nat) → Result α) : Result α :=
  match room with
  | 0 => .error (.unreadable .tooDeep)
  | rest + 1 => inside rest

mutual

/-- Reads a value of a document.  Objects with a kind become nodes; other objects are
searched for nodes if `deep` is set, and kept as they are if not. -/
def read (c : ExtentSource) (deep : Bool) (room : Nat) : Json → Result (Value Node)
  | .object ms =>
    if Members.hasKey ms "kind" then
      (enter room fun rest => ofMembers c ms fun d => readMembers c d rest ms).map .node
    else if deep then
      (enter room fun rest => searched (readMembers c true rest ms)).map .array
    else
      .ok (plain (.object ms))
  | .array items => (enter room fun rest => readItems c deep rest items).map .array
  | v => .ok (plain v)

/-- Reads the items of an array in order. -/
def readItems (c : ExtentSource) (deep : Bool) (room : Nat) :
    List Json → Result (List (Value Node))
  | [] => .ok []
  | v :: vs => do
    let first ← read c deep room v
    let rest ← readItems c deep room vs
    return first :: rest

/-- Reads each member of an object by itself. -/
def readMembers (c : ExtentSource) (deep : Bool) (room : Nat) :
    Members → List (String × Result (Value Node))
  | [] => []
  | (key, v) :: ms => (key, read c deep room v) :: readMembers c deep room ms

end

/-- The node of the object of a document. -/
def ofObject (c : ExtentSource) (room : Nat) (ms : Members) : Result Node :=
  enter room fun rest => ofMembers c ms fun deep => readMembers c deep rest ms

end Node

/-! ## Scripts -/

namespace Document

/-- The file of a script: the one that the document names, else the one it was read from. -/
def fileName (d : Document) (readFrom : Option String) : Option String :=
  match d.file with
  | some file => if file = "" then readFrom else some file
  | none => readFrom

/-- The script that a document describes. -/
def script (d : Document) (readFrom : Option String) (room : Nat := usualRoom) :
    Result Script := do
  let file := d.fileName readFrom
  let root ← Node.ofObject ⟨d.source, file⟩ room d.root
  return Script.ofRoot root d.source file

end Document

end ScriptNavigation
