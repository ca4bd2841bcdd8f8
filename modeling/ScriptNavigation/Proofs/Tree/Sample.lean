/-
# Small scripts

Nodes and scripts for examples.  A node is built from its extent, which is that of a text in the
first line of a script, or that of a span of a source.  The nodes are made like those that a parser
makes: a command has its name as its only element, a class has no base types, and a method has
neither parameters nor a body.
-/
import ScriptNavigation.Tree.Script

namespace ScriptNavigation

/-! ## Places -/

namespace Extent

/-- The extent of a text in the first line of a script, from an offset on. -/
def inLine (offset : Nat) (text : String) : Extent String :=
  Extent.nowhere.piece offset text.toList.length text

/-- The extent of a span of a source. -/
def inSource (source : String) (start stop : Int) : Extent String :=
  (Extent.ofSpan source start stop none).toOption.getD Extent.nowhere

end Extent

/-! ## Nodes -/

namespace Node

/-- A node in the first line of a script that covers a text from an offset on. -/
def inLine (kind : NodeKind) (offset : Nat) (text : String) (fields : List (Field × Value Node)) :
    Node :=
  .mk kind (.inLine offset text) fields

/-- A node that covers a span of a source. -/
def inSource (source : String) (kind : NodeKind) (start stop : Int)
    (fields : List (Field × Value Node)) : Node :=
  .mk kind (.inSource source start stop) fields

variable (e : Extent String)

/-- A word that is written without quotes. -/
def word (text : String) : Node :=
  .mk .stringConstant e [(.value, .str text), (.stringKind, .str "BareWord")]

/-- The use of a variable. -/
def variableUse (name : String) : Node :=
  .mk .variableExpression e [(.name, .str name), (.splatted, .bool false)]

/-- A command without arguments. -/
def command (name : String) : Node :=
  .mk .command e [(.invocationOperator, .str ""), (.elements, .array [.node (word e name)])]

/-- A pipeline of commands. -/
def pipeline (commands : List Node) : Node :=
  .mk .pipeline e [(.elements, .array (commands.map .node))]

/-- A class with its members. -/
def classType (name : String) (members : List Node) : Node :=
  .mk .typeDefinition e
    [(.name, .str name), (.typeKind, .str "class"), (.baseTypes, .array []),
      (.members, .array (members.map .node))]

/-- A method or a constructor. -/
def method (name : String) (isConstructor : Bool) : Node :=
  .mk .functionMember e
    [(.name, .str name), (.isStatic, .bool false), (.isConstructor, .bool isConstructor),
      (.returnType, .null), (.parameters, .array []), (.body, .null)]

/-- A property; its type is a node or `null`. -/
def property (name : String) (type : Value Node) : Node :=
  .mk .propertyMember e
    [(.name, .str name), (.isStatic, .bool false), (.propertyType, type), (.initialValue, .null)]

end Node

/-! ## Scripts -/

namespace Script

/-- A script of statements in one block, all of them in one line. -/
def inLine (line : String) (statements : List Node) : Script :=
  .ofRoot (.inLine .scriptBlock 0 line
    [(.paramBlock, .null), (.blocks, .array [.node (.inLine .namedBlock 0 line
      [(.blockKind, .str "end"), (.statements, .array (statements.map .node))])])])
    none none

/-- A script of statements in one block, placed by spans of the source. -/
def inSource (source : String) (statements : List Node) : Script :=
  .ofRoot (.inSource source .scriptBlock 0 source.toList.length
    [(.paramBlock, .null), (.blocks, .array [.node (.inSource source .namedBlock 0
      source.toList.length
      [(.blockKind, .str "end"), (.statements, .array (statements.map .node))])])])
    (some source) none

/-- A script of two commands in one pipeline: one is at the start of the source, and the other one
is ten characters behind. -/
def ofTwoCommands (source : String) : Script :=
  .inSource source [.pipeline (.inSource source 0 source.toList.length)
    [.command (.inSource source 0 5) "Get-A", .command (.inSource source 10 15) "Get-B"]]

end Script

end ScriptNavigation
