/-
# Spellings of a variable

A variable is written with a sigil in front of its name, and its name may stand in braces.  Two
variables are compared by what is left without sigils and braces.  Braces keep the name whole,
whatever it starts with.  Without them all sigils in front are taken away, so a name that starts
with a sigil itself is lost: the variable of the last token, `$$`, is left without a name.

Main facts:

* `stripVariable_braced`: a name in braces is kept whole.
* `stripVariable_eq_self_iff`: a name behind a sigil is kept if it does not start with one.
* `denotesSame_variable`: variables are compared by their names without sigils and braces.
* `variable_spellings`: the spellings of a variable are one variable.
* `sigil_lost`: `$$` is not the same variable as its spelling with braces.
-/
import ScriptNavigation.Proofs.Symbol.Matching

namespace ScriptNavigation

/-! ## Names without their sigils and braces -/

/-- A name has no brace at either end, where it could not be told from those around the name. -/
structure Unbraced (name : List Char) : Prop where
  head : ∀ c ∈ name.head?, isBrace c = false
  last : ∀ c ∈ name.getLast?, isBrace c = false

/-- A name does not start with a sigil. -/
def StartsWithoutSigil (name : List Char) : Prop := ∀ c ∈ name.head?, isSigil c = false

theorem all_not_iff {o : Option Char} {p : Char → Bool} :
    (o.all fun c => !p c) = true ↔ ∀ c ∈ o, p c = false := by
  cases o <;> simp

instance (name : List Char) : Decidable (Unbraced name) :=
  decidable_of_iff ((name.head?.all fun c => !isBrace c) = true ∧
      (name.getLast?.all fun c => !isBrace c) = true)
    ⟨fun h => ⟨all_not_iff.mp h.1, all_not_iff.mp h.2⟩,
      fun h => ⟨all_not_iff.mpr h.head, all_not_iff.mpr h.last⟩⟩

instance (name : List Char) : Decidable (StartsWithoutSigil name) :=
  decidable_of_iff _ all_not_iff

/-- Nothing is dropped from the front of a list whose first element stays. -/
theorem dropWhile_eq_self {α : Type} {p : α → Bool} {as : List α}
    (h : ∀ a ∈ as.head?, p a = false) : as.dropWhile p = as := by
  cases as with
  | nil => rfl
  | cons a as => rw [List.dropWhile_cons, h a rfl, if_neg Bool.false_ne_true]

variable {name : List Char}

/-- No brace is taken away from the end of a name that ends in none. -/
theorem Unbraced.trim_last (hn : Unbraced name) :
    (name.reverse.dropWhile isBrace).reverse = name := by
  rw [dropWhile_eq_self, List.reverse_reverse]
  intro c hc
  rw [List.head?_reverse] at hc
  exact hn.last c hc

/-- A name in braces is kept whole. -/
theorem stripVariable_braced (hn : Unbraced name) :
    stripVariable ('$' :: '\x7b' :: (name ++ ['\x7d'])) = name := by
  have hsigil : ('$' :: '\x7b' :: (name ++ ['\x7d'])).dropWhile isSigil =
      '\x7b' :: (name ++ ['\x7d']) := rfl
  have hbrace : ('\x7b' :: (name ++ ['\x7d'])).dropWhile isBrace =
      (name ++ ['\x7d']).dropWhile isBrace := rfl
  rw [stripVariable, hsigil, hbrace]
  by_cases hnil : name = []
  · rw [hnil]
    rfl
  · -- the brace in front is gone, so only the one at the end is left to be taken away
    have hfront : (name ++ ['\x7d']).dropWhile isBrace = name ++ ['\x7d'] := by
      apply dropWhile_eq_self
      intro c hc
      rw [List.head?_append_of_ne_nil _ hnil] at hc
      exact hn.head c hc
    rw [hfront, List.reverse_append, List.reverse_singleton, List.singleton_append,
      List.dropWhile_cons, if_pos (by decide : isBrace '\x7d' = true)]
    exact hn.trim_last

/-- What is left of a name is not longer than the name without the sigils in front of it. -/
theorem length_stripVariable_le (name : List Char) :
    (stripVariable name).length ≤ (name.dropWhile isSigil).length := by
  rw [stripVariable, List.length_reverse]
  calc ((((name.dropWhile isSigil).dropWhile isBrace).reverse).dropWhile isBrace).length
      ≤ (((name.dropWhile isSigil).dropWhile isBrace).reverse).length :=
        (List.dropWhile_sublist isBrace).length_le
    _ = ((name.dropWhile isSigil).dropWhile isBrace).length := List.length_reverse
    _ ≤ (name.dropWhile isSigil).length := (List.dropWhile_sublist isBrace).length_le

/-- A name without braces around it is kept exactly if it does not start with a sigil. -/
theorem stripVariable_eq_self_iff (hn : Unbraced name) :
    stripVariable name = name ↔ StartsWithoutSigil name := by
  constructor
  · intro h c hc
    cases name with
    | nil => cases hc
    | cons d ds =>
      obtain rfl : d = c := Option.some_inj.mp hc
      by_contra hsigil
      -- the sigil would be dropped, and nothing can make up for it
      have hshort := length_stripVariable_le (d :: ds)
      rw [h, List.dropWhile_cons, if_pos (Bool.not_eq_false _ ▸ hsigil), List.length_cons] at hshort
      have hlonger : (ds.dropWhile isSigil).length ≤ ds.length :=
        (List.dropWhile_sublist isSigil).length_le
      omega
  · intro h
    rw [stripVariable, dropWhile_eq_self h, dropWhile_eq_self hn.head, hn.trim_last]

/-! ## Variables -/

/-- The spellings of a variable: its name behind a sigil, if the name starts with none, and its
name in braces behind a sigil. -/
inductive Spells (name : String) : String → Prop
  | plain (h : StartsWithoutSigil name.toList) : Spells name ("$" ++ name)
  | braced : Spells name ("$\x7b" ++ name ++ "\x7d")

/-- The name of a variable that is a text is the text without its sigils and braces. -/
theorem variableBase_text (spelling : String) :
    variableBase (.str spelling) = .ok (.str (String.ofList (stripVariable spelling.toList))) := rfl

/-- A name is what is left of a text if it is made of the characters that are left. -/
theorem variableBase_eq_iff {spelling name : String} :
    variableBase (.str spelling) = .ok (.str name) ↔
      stripVariable spelling.toList = name.toList := by
  rw [variableBase_text, Except.ok.injEq, Value.str.injEq, ← String.toList_inj,
    String.toList_ofList]

theorem variableBase_braced {name : String} (hn : Unbraced name.toList) :
    variableBase (.str ("$\x7b" ++ name ++ "\x7d")) = .ok (.str name) := by
  rw [variableBase_eq_iff, String.toList_append, String.toList_append, List.append_assoc]
  exact stripVariable_braced hn

theorem variableBase_plain_iff {name : String} (hn : Unbraced name.toList) :
    variableBase (.str ("$" ++ name)) = .ok (.str name) ↔ StartsWithoutSigil name.toList := by
  rw [variableBase_eq_iff, String.toList_append]
  exact (stripVariable_dollar name.toList).symm ▸ stripVariable_eq_self_iff hn

/-- Each spelling of a variable has its name. -/
theorem Spells.base {name spelling : String} (hn : Unbraced name.toList)
    (h : Spells name spelling) : variableBase (.str spelling) = .ok (.str name) := by
  cases h with
  | plain hsigil => exact (variableBase_plain_iff hn).mpr hsigil
  | braced => exact variableBase_braced hn

/-- Variables are compared by their names without sigils and braces. -/
theorem denotesSame_variable (table : Option AliasTable) {S C : Symbol}
    (hS : S.kind = .variableName) (hC : C.kind = .variableName) :
    denotesSame table S C =
      variableBase S.name >>= fun a => variableBase C.name >>= fun b => sameName a b := by
  rw [denotesSame, hS, hC, if_neg (not_not_intro rfl)]
  rfl

/-- The spellings of a variable are one variable.  A name in braces is kept whole, a name without
them if it does not start with a sigil; so two variables in any of these spellings are the same
exactly if their names are equal up to case. -/
theorem variable_spellings (table : Option AliasTable) {a b : String} (ha : Unbraced a.toList)
    (hb : Unbraced b.toList) :
    variableBase (.str ("$\x7b" ++ a ++ "\x7d")) = .ok (.str a) ∧
      (variableBase (.str ("$" ++ a)) = .ok (.str a) ↔ StartsWithoutSigil a.toList) ∧
      ∀ (S C : Symbol) (x y : String), S.kind = .variableName → C.kind = .variableName →
        S.name = .str x → C.name = .str y → Spells a x → Spells b y →
        denotesSame table S C = .ok (Text.foldCase a == Text.foldCase b) := by
  refine ⟨variableBase_braced ha, variableBase_plain_iff ha, ?_⟩
  intro S C x y hS hC hx hy hax hby
  rw [denotesSame_variable table hS hC, hx, hy, hax.base ha, Result.ok_bind, hby.base hb,
    Result.ok_bind, sameName_text, Text.sameFolded]

/-- A variable in a given spelling. -/
def variableNamed (spelling : String) : Symbol :=
  ⟨.variableName, .str spelling, Extent.nowhere.withText (.str spelling), none⟩

/-- The variable of the last token in braces, and two spellings of a variable in other case. -/
theorem variable_spellings_braced :
    variableBase (.str "$\x7b$\x7d") = .ok (.str "$") ∧
      denotesSame none (variableNamed "$Straße") (variableNamed "$\x7bSTRASSE\x7d") = .ok true := by
  have hlast : Unbraced "$".toList := by decide
  have hstreet : Unbraced "Straße".toList := by decide
  have hSTREET : Unbraced "STRASSE".toList := by decide
  have hsigil : StartsWithoutSigil "Straße".toList := by decide
  refine ⟨(variable_spellings none hlast hlast).1, ?_⟩
  have hsame := (variable_spellings none hstreet hSTREET).2.2 (variableNamed "$Straße")
    (variableNamed "$\x7bSTRASSE\x7d") _ _ rfl rfl rfl rfl (.plain hsigil) .braced
  rw [hsame]
  decide +kernel

/-- The variable of the last token has no name without its sigils, and is not the same variable
as in its spelling with braces. -/
theorem sigil_lost :
    Unbraced "$".toList ∧ variableBase (.str ("$" ++ "$")) = .ok (.str "") ∧
      denotesSame none (variableNamed "$$") (variableNamed "$\x7b$\x7d") = .ok false :=
  ⟨by decide, rfl, rfl⟩

end ScriptNavigation
