/-
# Kinds of symbols

A symbol is a function, a variable, a class and so on.  Workflows are matched like
functions and constructors like methods, so each kind belongs to a family.
-/

namespace ScriptNavigation

/-- The kind of a symbol. -/
inductive SymbolKind where
  | function
  | variableName
  | parameter
  | classType
  | constructor
  | method
  | property
  | hashtableKey
  | workflow
  | configuration
  | unknown
  deriving DecidableEq, Repr, Inhabited

namespace SymbolKind

/-- Every kind. -/
def all : List SymbolKind :=
  [function, variableName, parameter, classType, constructor, method, property, hashtableKey,
    workflow, configuration, unknown]

/-- The name of a kind in reports. -/
def name : SymbolKind → String
  | function => "Function"
  | variableName => "Variable"
  | parameter => "Parameter"
  | classType => "Class"
  | constructor => "Constructor"
  | method => "Method"
  | property => "Property"
  | hashtableKey => "HashtableKey"
  | workflow => "Workflow"
  | configuration => "Configuration"
  | unknown => "Unknown"

/-- The kind with a given name. -/
def ofName? (s : String) : Option SymbolKind :=
  all.find? fun k => k.name == s

/-- The kind whose symbols are matched like those of the kind given. -/
def family : SymbolKind → SymbolKind
  | workflow => function
  | constructor => method
  | k => k

/-- Whether symbols of the kind are members of a class. -/
def isMember : SymbolKind → Bool
  | constructor | method | property => true
  | _ => false

/-- Whether symbols of the kind are called with arguments after their name. -/
def hasSignature : SymbolKind → Bool
  | method | constructor => true
  | _ => false

/-- The name of a kind determines the kind. -/
theorem ofName?_name (k : SymbolKind) : ofName? k.name = some k := by
  cases k <;> rfl

/-- A family is its own family. -/
@[simp] theorem family_family (k : SymbolKind) : k.family.family = k.family := by
  cases k <;> rfl

/-- Members are methods, with constructors among them, and properties. -/
theorem isMember_iff {k : SymbolKind} :
    k.isMember = true ↔ k.family = .method ∨ k.family = .property := by
  cases k <;> decide

end SymbolKind

end ScriptNavigation
