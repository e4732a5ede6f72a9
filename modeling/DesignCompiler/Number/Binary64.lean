set_option autoImplicit false

/-!
# Binary64 numbers

A binary64 number is its 64 bits. A finite one is a whole multiple `scaled` of the smallest
positive number `2^-1074`, and every operation is the exact result rounded once: to the nearest
number, a tie to the even significand, and to an infinity beyond the largest finite number.
-/
namespace DesignCompiler

/-- A binary64 number, given by its bits: sign, eleven exponent bits, 52 fraction bits. -/
structure Binary64 where
  bits : UInt64
deriving DecidableEq, Repr, Inhabited

namespace Binary64

def negative (x : Binary64) : Bool := Nat.pow 2 63 ≤ x.bits.toNat

def exponentField (x : Binary64) : Nat := x.bits.toNat / Nat.pow 2 52 % Nat.pow 2 11

def fraction (x : Binary64) : Nat := x.bits.toNat % Nat.pow 2 52

def isFinite (x : Binary64) : Bool := x.exponentField != 2047

def isNaN (x : Binary64) : Bool := !x.isFinite && x.fraction != 0

def isInfinite (x : Binary64) : Bool := !x.isFinite && x.fraction == 0

def significand (x : Binary64) : Nat :=
  if x.exponentField = 0 then x.fraction else Nat.pow 2 52 + x.fraction

/-- The weight of the significand's last bit is `2^(unit - 1074)`. -/
def unit (x : Binary64) : Nat := x.exponentField - 1

def magnitude (x : Binary64) : Nat := x.significand * Nat.pow 2 x.unit

/-- A finite number in multiples of `2^-1074`. -/
def scaled (x : Binary64) : Int := if x.negative then -(x.magnitude : Int) else x.magnitude

def scale : Nat := Nat.pow 2 1074

def withSign (negative : Bool) (word : Nat) : Binary64 :=
  ⟨UInt64.ofNat (if negative then Nat.pow 2 63 + word else word)⟩

def zero (negative : Bool) : Binary64 := withSign negative 0

def infinityWord : Nat := 2047 * Nat.pow 2 52

def infinity (negative : Bool) : Binary64 := withSign negative infinityWord

def nan : Binary64 := withSign false (infinityWord + Nat.pow 2 51)

/-- The whole number nearest to `num / den`, the even one of two. -/
def roundDiv (num den : Nat) : Nat :=
  let q := num / den
  let r := num % den
  if 2 * r < den then q
  else if 2 * r = den then q + q % 2
  else q + 1

/-- The unit in whose multiples `num / den` has a 53-bit significand: the least `u` with
`num / den < 2^(u + 53)`. -/
def unitOf (num den : Nat) : Nat :=
  let u := num.log2 - den.log2 - 52
  if u ≠ 0 ∧ num < den * Nat.pow 2 (u + 52) then u - 1 else u

def round (negative : Bool) (num den : Nat) : Binary64 :=
  let u := unitOf num den
  let word := u * Nat.pow 2 52 + roundDiv num (den * Nat.pow 2 u)
  if word < infinityWord then withSign negative word else infinity negative

def ofNat (n : Nat) : Binary64 := round false (n * scale) 1

def ofInt (n : Int) : Binary64 := round (n < 0) (n.natAbs * scale) 1

def one : Binary64 := ofNat 1

def neg (x : Binary64) : Binary64 := ⟨x.bits ^^^ 0x8000000000000000⟩

def isZero (x : Binary64) : Bool := x.isFinite && x.significand == 0

def add (x y : Binary64) : Binary64 :=
  if x.isNaN || y.isNaN then nan
  else if x.isInfinite then (if y.isInfinite && x.negative != y.negative then nan else x)
  else if y.isInfinite then y
  else
    let sum := x.scaled + y.scaled
    if sum = 0 then zero (x.negative && y.negative) else round (sum < 0) sum.natAbs 1

def mul (x y : Binary64) : Binary64 :=
  let negative := x.negative != y.negative
  if x.isNaN || y.isNaN then nan
  else if x.isInfinite || y.isInfinite then
    (if x.isZero || y.isZero then nan else infinity negative)
  else round negative (x.magnitude * y.magnitude) scale

def div (x y : Binary64) : Binary64 :=
  let negative := x.negative != y.negative
  if x.isNaN || y.isNaN then nan
  else if x.isInfinite then (if y.isInfinite then nan else infinity negative)
  else if y.isInfinite then zero negative
  else if y.isZero then (if x.isZero then nan else infinity negative)
  else round negative (x.magnitude * scale) y.magnitude

def wholeBelow (x : Binary64) : Int := x.scaled.fdiv scale

def isWhole (x : Binary64) : Bool := x.isFinite && x.magnitude % scale == 0

def floor (x : Binary64) : Binary64 :=
  if !x.isFinite || x.isWhole then x else ofInt x.wholeBelow

end Binary64
end DesignCompiler
