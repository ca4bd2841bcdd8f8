/-
# Kinds of syntax nodes

A script is parsed into nodes of a fixed set of kinds.  A document may hold nodes of kinds
that are not in the set; they become generic nodes.

Main facts:

* `ofName?_name`: the name of a kind determines the kind.
-/

namespace ScriptNavigation

/-- The kind of a syntax node. -/
inductive NodeKind where
  | scriptBlock
  | paramBlock
  | namedBlock
  | statementBlock
  | parameter
  | functionDefinition
  | configurationDefinition
  | typeDefinition
  | functionMember
  | propertyMember
  | pipeline
  | command
  | commandParameter
  | commandExpression
  | assignment
  | variableExpression
  | memberExpression
  | invokeMemberExpression
  | typeExpression
  | typeConstraint
  | convertExpression
  | stringConstant
  | expandableString
  | constant
  | hashtable
  | arrayLiteral
  | scriptBlockExpression
  | parenExpression
  | binaryExpression
  | conditional
  | loop
  | returnStatement
  /-- A node of a kind that is not in the set. -/
  | generic
  deriving DecidableEq, Repr, Inhabited

namespace NodeKind

/-- Every kind. -/
def all : List NodeKind :=
  [scriptBlock, paramBlock, namedBlock, statementBlock, parameter, functionDefinition,
    configurationDefinition, typeDefinition, functionMember, propertyMember, pipeline, command,
    commandParameter, commandExpression, assignment, variableExpression, memberExpression,
    invokeMemberExpression, typeExpression, typeConstraint, convertExpression, stringConstant,
    expandableString, constant, hashtable, arrayLiteral, scriptBlockExpression, parenExpression,
    binaryExpression, conditional, loop, returnStatement, generic]

/-- The name of a kind in a document. -/
def name : NodeKind → String
  | scriptBlock => "ScriptBlock"
  | paramBlock => "ParamBlock"
  | namedBlock => "NamedBlock"
  | statementBlock => "StatementBlock"
  | parameter => "Parameter"
  | functionDefinition => "FunctionDefinition"
  | configurationDefinition => "ConfigurationDefinition"
  | typeDefinition => "TypeDefinition"
  | functionMember => "FunctionMember"
  | propertyMember => "PropertyMember"
  | pipeline => "Pipeline"
  | command => "Command"
  | commandParameter => "CommandParameter"
  | commandExpression => "CommandExpression"
  | assignment => "Assignment"
  | variableExpression => "VariableExpression"
  | memberExpression => "MemberExpression"
  | invokeMemberExpression => "InvokeMemberExpression"
  | typeExpression => "TypeExpression"
  | typeConstraint => "TypeConstraint"
  | convertExpression => "ConvertExpression"
  | stringConstant => "StringConstant"
  | expandableString => "ExpandableString"
  | constant => "Constant"
  | hashtable => "Hashtable"
  | arrayLiteral => "ArrayLiteral"
  | scriptBlockExpression => "ScriptBlockExpression"
  | parenExpression => "ParenExpression"
  | binaryExpression => "BinaryExpression"
  | conditional => "If"
  | loop => "Loop"
  | returnStatement => "Return"
  | generic => "Generic"

/-- The kind with a given name. -/
def ofName? (s : String) : Option NodeKind :=
  all.find? fun k => k.name == s

/-- Whether nodes of the kind access a member of a receiver: a property access or a call. -/
def isMemberAccess : NodeKind → Bool
  | memberExpression | invokeMemberExpression => true
  | _ => false

/-- Whether nodes of the kind declare a function or a method, with parameters and a body. -/
def isCallable : NodeKind → Bool
  | functionDefinition | functionMember => true
  | _ => false

/-- The name of a kind determines the kind. -/
theorem ofName?_name (k : NodeKind) : ofName? k.name = some k := by
  cases k <;> rfl

end NodeKind

end ScriptNavigation
