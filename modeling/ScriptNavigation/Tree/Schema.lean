/-
# Fields of syntax nodes

Each kind of node has its own fields, in the order in which their contents stand in the
script.  A field has a declared type.  The type gives the value of a field that a document
leaves out, and it says which values are well typed; it does not restrict what a document
may store there.
-/
import ScriptNavigation.Tree.Kind
import ScriptNavigation.Value.Basic

namespace ScriptNavigation

/-! ## Field names -/

/-- A field of a syntax node. -/
inductive Field where
  | paramBlock
  | blocks
  | parameters
  | blockKind
  | statements
  | typeConstraint
  | name
  | defaultValue
  | isWorkflow
  | isFilter
  | body
  | typeKind
  | baseTypes
  | members
  | isStatic
  | isConstructor
  | returnType
  | propertyType
  | initialValue
  | elements
  | invocationOperator
  | parameterName
  | argument
  | expression
  | left
  | operator
  | right
  | clauses
  | elseClause
  | loopKind
  | variableNode
  | condition
  | pipeline
  | splatted
  | member
  | isStaticAccess
  | arguments
  | typeName
  | child
  | value
  | stringKind
  | nested
  | staticType
  | pairs
  | scriptBlock
  | originalKind
  deriving DecidableEq, Repr

namespace Field

/-- The key of a field in a document. -/
def key : Field → String
  | paramBlock => "param_block"
  | blocks => "blocks"
  | parameters => "parameters"
  | blockKind => "block_kind"
  | statements => "statements"
  | typeConstraint => "type_constraint"
  | name => "name"
  | defaultValue => "default_value"
  | isWorkflow => "is_workflow"
  | isFilter => "is_filter"
  | body => "body"
  | typeKind => "type_kind"
  | baseTypes => "base_types"
  | members => "members"
  | isStatic => "is_static"
  | isConstructor => "is_constructor"
  | returnType => "return_type"
  | propertyType => "property_type"
  | initialValue => "initial_value"
  | elements => "elements"
  | invocationOperator => "invocation_operator"
  | parameterName => "parameter_name"
  | argument => "argument"
  | expression => "expression"
  | left => "left"
  | operator => "operator"
  | right => "right"
  | clauses => "clauses"
  | elseClause => "else_clause"
  | loopKind => "loop_kind"
  | variableNode => "variable"
  | condition => "condition"
  | pipeline => "pipeline"
  | splatted => "splatted"
  | member => "member"
  | isStaticAccess => "static"
  | arguments => "arguments"
  | typeName => "type_name"
  | child => "child"
  | value => "value"
  | stringKind => "string_kind"
  | nested => "nested"
  | staticType => "static_type"
  | pairs => "pairs"
  | scriptBlock => "script_block"
  | originalKind => "original_kind"

end Field

/-! ## Declared types -/

/-- The declared type of a field; where a kind of node is not given, any will do. -/
inductive FieldType where
  | text (default : String)
  | flag
  | anything
  /-- A node or nothing. -/
  | child (kind : Option NodeKind)
  /-- A list of nodes. -/
  | children (kind : Option NodeKind)
  /-- A list of pairs of nodes, the second one of the kind given. -/
  | pairs (second : Option NodeKind)
  deriving DecidableEq, Repr

namespace FieldType

/-- The value of a field that a document leaves out. -/
def default {ν : Type} : FieldType → Value ν
  | text s => .str s
  | flag => .bool false
  | anything => .null
  | child _ => .null
  | children _ => .array []
  | pairs _ => .array []

end FieldType

/-! ## The fields of each kind -/

namespace NodeKind

/-- The fields of nodes of a kind with their declared types, in order. -/
def schema : NodeKind → List (Field × FieldType)
  | scriptBlock => [(.paramBlock, .child paramBlock), (.blocks, .children namedBlock)]
  | paramBlock => [(.parameters, .children parameter)]
  | namedBlock => [(.blockKind, .text "end"), (.statements, .children none)]
  | statementBlock => [(.statements, .children none)]
  | parameter =>
    [(.typeConstraint, .child typeConstraint), (.name, .child variableExpression),
      (.defaultValue, .child none)]
  | functionDefinition =>
    [(.name, .text ""), (.isWorkflow, .flag), (.isFilter, .flag),
      (.parameters, .children parameter), (.body, .child scriptBlock)]
  | configurationDefinition => [(.name, .text ""), (.body, .child none)]
  | typeDefinition =>
    [(.name, .text ""), (.typeKind, .text "class"), (.baseTypes, .children typeConstraint),
      (.members, .children none)]
  | functionMember =>
    [(.name, .text ""), (.isStatic, .flag), (.isConstructor, .flag),
      (.returnType, .child typeConstraint), (.parameters, .children parameter),
      (.body, .child scriptBlock)]
  | propertyMember =>
    [(.name, .text ""), (.isStatic, .flag), (.propertyType, .child typeConstraint),
      (.initialValue, .child none)]
  | pipeline => [(.elements, .children none)]
  | command => [(.invocationOperator, .text ""), (.elements, .children none)]
  | commandParameter => [(.parameterName, .text ""), (.argument, .child none)]
  | commandExpression => [(.expression, .child none)]
  | assignment => [(.left, .child none), (.operator, .text "="), (.right, .child none)]
  | variableExpression => [(.name, .text ""), (.splatted, .flag)]
  | memberExpression =>
    [(.expression, .child none), (.member, .child none), (.isStaticAccess, .flag)]
  | invokeMemberExpression =>
    [(.expression, .child none), (.member, .child none), (.isStaticAccess, .flag),
      (.arguments, .children none)]
  | typeExpression => [(.typeName, .text "")]
  | typeConstraint => [(.typeName, .text "")]
  | convertExpression => [(.typeConstraint, .child typeConstraint), (.child, .child none)]
  | stringConstant => [(.value, .text ""), (.stringKind, .text "BareWord")]
  | expandableString => [(.value, .text ""), (.nested, .children none)]
  | constant => [(.value, .anything), (.staticType, .text "int")]
  | hashtable => [(.pairs, .pairs none)]
  | arrayLiteral => [(.elements, .children none)]
  | scriptBlockExpression => [(.scriptBlock, .child scriptBlock)]
  | parenExpression => [(.pipeline, .child none)]
  | binaryExpression => [(.left, .child none), (.operator, .text ""), (.right, .child none)]
  | conditional => [(.clauses, .pairs statementBlock), (.elseClause, .child statementBlock)]
  | loop =>
    [(.loopKind, .text "while"), (.variableNode, .child variableExpression),
      (.condition, .child none), (.body, .child statementBlock)]
  | returnStatement => [(.pipeline, .child none)]
  | generic => [(.originalKind, .text ""), (.nested, .children none)]

end NodeKind

end ScriptNavigation
