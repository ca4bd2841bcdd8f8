/-
# Double-precision numbers

A finite double is a sign, a mantissa of at most 53 bits and a power of two.  This module
reads a decimal into the nearest double and writes a double with the fewest digits that
read back as the same one.  Both directions are exact arithmetic on natural numbers.
-/

namespace ScriptNavigation

/-- The number `± mantissa · 2 ^ exponent`. -/
structure Binary64 where
  negative : Bool
  mantissa : Nat
  exponent : Int
  deriving DecidableEq, Repr, Inhabited

namespace Binary64

/-- The exponent of the smallest positive double. -/
def leastExponent : Int := -1074

/-- The exponent of the greatest finite double. -/
def greatestExponent : Int := 971

/-- The zero of either sign. -/
def zero (negative : Bool) : Binary64 := ⟨negative, 0, leastExponent⟩

/-- Whether the number is zero, of either sign. -/
def isZero (x : Binary64) : Bool := x.mantissa == 0

/-- The power of two with a given exponent. -/
def twoTo (n : Nat) : Nat := Nat.pow 2 n

/-- The power of ten with a given exponent. -/
def tenTo (n : Nat) : Nat := Nat.pow 10 n

/-! ## From a decimal -/

/-- The whole number nearest to `num / den`; a tie goes to the even neighbour. -/
def roundDiv (num den : Nat) : Nat :=
  let q := num / den
  let r := 2 * (num % den)
  if r < den then q else if den < r then q + 1 else q + q % 2

/-- The fraction `num / den / 2 ^ e`, again as numerator and denominator. -/
def scaleDown (num den : Nat) (e : Int) : Nat × Nat :=
  (num * twoTo (-e).toNat, den * twoTo e.toNat)

/-- The double nearest to the positive fraction `num / den`, if it is finite. -/
def ofFraction? (negative : Bool) (num den : Nat) : Option Binary64 :=
  let low : Int := (Nat.log2 num : Int) - Nat.log2 den - 53
  let scaled := scaleDown num den low
  let fitted := if scaled.1 / scaled.2 < twoTo 53 then low else low + 1
  let e := max fitted leastExponent
  let rounded := scaleDown num den e
  let m := roundDiv rounded.1 rounded.2
  let carried := if m = twoTo 53 then (twoTo 52, e + 1) else (m, e)
  if greatestExponent < carried.2 then none else some ⟨negative, carried.1, carried.2⟩

/-- The double nearest to `± digits · 10 ^ scale`, if it is finite. -/
def ofDecimal? (negative : Bool) (digits : Nat) (scale : Int) : Option Binary64 :=
  let magnitude := (Nat.toDigits 10 digits).length + scale
  if digits = 0 ∨ magnitude < -400 then
    some (zero negative)
  else if 400 < magnitude then
    none
  else
    ofFraction? negative (digits * tenTo scale.toNat) (tenTo (-scale).toNat)

/-! ## The shortest decimal -/

/-- Compares `c · 10 ^ k` with `x · 2 ^ u`. -/
def compareScaled (c : Nat) (k : Int) (x : Nat) (u : Int) : Ordering :=
  compare (c * tenTo k.toNat * twoTo (-u).toNat) (x * twoTo u.toNat * tenTo (-k).toNat)

/-- Whether `c · 10 ^ k` rounds to the number, whose sign is left aside. -/
def readsBack (x : Binary64) (c : Nat) (k : Int) : Bool :=
  let even := x.mantissa % 2 == 0
  let gapBelow := if x.mantissa == twoTo 52 && leastExponent < x.exponent then 1 else 2
  let u := x.exponent - 2
  let aboveLow := match compareScaled c k (4 * x.mantissa - gapBelow) u with
    | .lt => false
    | .eq => even
    | .gt => true
  let belowHigh := match compareScaled c k (4 * x.mantissa + 2) u with
    | .lt => true
    | .eq => even
    | .gt => false
  aboveLow && belowHigh

/-- The greatest `c` with `c · 10 ^ k` not above the number. -/
def floorAt (x : Binary64) (k : Int) : Nat :=
  (x.mantissa * twoTo x.exponent.toNat * tenTo (-k).toNat) /
    (twoTo (-x.exponent).toNat * tenTo k.toNat)

/-- The power of ten of the first significant digit. -/
def leadingPower (x : Binary64) : Int :=
  let guess := ((Nat.log2 x.mantissa + x.exponent) * 30103).fdiv 100000
  if floorAt x (guess + 1) ≠ 0 then guess + 1
  else if floorAt x guess = 0 then guess - 1
  else guess

/-- The neighbour of the number on the grid of multiples of `10 ^ k` that reads back,
the nearer one when both do. -/
def gridPoint? (x : Binary64) (k : Int) : Option Nat :=
  let below := floorAt x k
  match readsBack x below k, readsBack x (below + 1) k with
  | true, true =>
    match compareScaled (2 * below + 1) k (2 * x.mantissa) x.exponent with
    | .lt => some (below + 1)
    | .gt => some below
    | .eq => some (below + below % 2)
  | true, false => some below
  | false, true => some (below + 1)
  | false, false => none

/-- Drops the zeros at the end of a decimal and raises its power of ten instead. -/
def stripZeros : Nat → Nat → Int → Nat × Int
  | 0, c, k => (c, k)
  | fuel + 1, c, k => if c ≠ 0 ∧ c % 10 = 0 then stripZeros fuel (c / 10) (k + 1) else (c, k)

/-- The shortest decimal `c · 10 ^ k` that reads back, for a number that is not zero. -/
def shortest (x : Binary64) : Nat × Int :=
  let top := leadingPower x
  let grids := (List.range 17).map fun (n : Nat) => top - (n : Int)
  match grids.findSome? fun k => (gridPoint? x k).map (·, k) with
  | some (c, k) => stripZeros 20 c k
  | none => (floorAt x (top - 16), top - 16)

/-! ## Writing -/

/-- An exponent with its sign and at least two digits. -/
def exponentText (e : Int) : String :=
  let digits := toString e.natAbs
  (if e < 0 then "-" else "+") ++ (if digits.length < 2 then "0" ++ digits else digits)

/-- The text of `c · 10 ^ k`: positional when the first digit stands for a power of ten
from `-4` to `15`, and with an exponent otherwise. -/
def decimalText (c : Nat) (k : Int) : String :=
  let digits := Nat.toDigits 10 c
  let point := digits.length + k
  if -4 < point ∧ point ≤ 16 then
    if point ≤ 0 then
      "0." ++ String.ofList (List.replicate (-point).toNat '0' ++ digits)
    else if digits.length ≤ point then
      String.ofList (digits ++ List.replicate k.toNat '0') ++ ".0"
    else
      String.ofList (digits.take point.toNat) ++ "." ++ String.ofList (digits.drop point.toNat)
  else
    let fraction := digits.drop 1
    String.ofList (digits.take 1)
      ++ (if fraction.isEmpty then "" else "." ++ String.ofList fraction)
      ++ "e" ++ exponentText (point - 1)

/-- The shortest text that reads back as the number. -/
def text (x : Binary64) : String :=
  (if x.negative then "-" else "") ++
    (if x.isZero then "0.0" else decimalText x.shortest.1 x.shortest.2)

/-! ## Comparison -/

/-- Whether two doubles are the same number; the two zeros are. -/
def same (x y : Binary64) : Bool := x == y || (x.isZero && y.isZero)

/-- Whether a double is a given whole number. -/
def isInt (x : Binary64) (i : Int) : Bool :=
  x.mantissa * twoTo x.exponent.toNat == i.natAbs * twoTo (-x.exponent).toNat &&
    (x.isZero || x.negative == decide (i < 0))

/-- The number as a whole number times a power of two. -/
def scaled (x : Binary64) : Int × Int :=
  (if x.negative then -(x.mantissa : Int) else x.mantissa, x.exponent)

/-- Whether `a.1 · 2 ^ a.2` is less than `b.1 · 2 ^ b.2`. -/
def scaledLess (a b : Int × Int) : Bool :=
  let low := min a.2 b.2
  decide (a.1 * twoTo (a.2 - low).toNat < b.1 * twoTo (b.2 - low).toNat)

/-! ## Samples -/

example : (ofDecimal? false 1 (-1)).map text = some "0.1" := by decide +kernel

example : (ofDecimal? true 1 22).map text = some "-1e+22" := by decide +kernel

example : (ofDecimal? false 5 (-324)).map text = some "5e-324" := by decide +kernel

example : (ofDecimal? false 123456789012345678 0).map text = some "1.2345678901234568e+17" := by
  decide +kernel

end Binary64

end ScriptNavigation
