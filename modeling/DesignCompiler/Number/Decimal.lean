import DesignCompiler.Number.Binary64

set_option autoImplicit false

namespace DesignCompiler

def decimal (n : Nat) : List Char :=
  if n < 10 then [Char.ofNat (48 + n)] else decimal (n / 10) ++ [Char.ofNat (48 + n % 10)]
termination_by n

def decimalInt (n : Int) : List Char :=
  if n < 0 then '-' :: decimal n.natAbs else decimal n.natAbs

/-- The least `j` with `n < 10^j`. -/
def digitCount (n : Nat) : Nat :=
  if n = 0 then 0 else digitCount (n / 10) + 1
termination_by n

/-- The least `k` with `num / den < 10^k`, for a positive quotient. -/
def decimalExponent (num den : Nat) : Int :=
  if den ≤ num then digitCount (num / den) else 1 - (digitCount ((den - 1) / num) : Int)

structure Decimal where
  digits : Nat
  exponent : Int
deriving DecidableEq, Repr

namespace Decimal

def num (d : Decimal) : Nat := d.digits * Nat.pow 10 d.exponent.toNat

def den (d : Decimal) : Nat := Nat.pow 10 (-d.exponent).toNat

def reduce (digits : Nat) (exponent : Int) : Decimal :=
  if h : digits ≠ 0 ∧ digits % 10 = 0 then reduce (digits / 10) (exponent + 1)
  else ⟨digits, exponent⟩
termination_by digits
decreasing_by omega

end Decimal

namespace Binary64

/-- Whether a decimal rounds to the finite positive number `x`: it is at most half a unit away, on
the lower side of a power of two a quarter; the ends count when the significand is even. -/
def admits (x : Binary64) (d : Decimal) : Bool :=
  let half := 2 * Nat.pow 2 x.unit
  let below := if x.significand = Nat.pow 2 52 ∧ x.unit ≠ 0 then Nat.pow 2 x.unit else half
  let value := 4 * scale * d.num
  let low := (4 * x.magnitude - below) * d.den
  let high := (4 * x.magnitude + half) * d.den
  if x.significand % 2 = 0 then low ≤ value && value ≤ high else low < value && value < high

/-- The multiples of `10^exponent` next to the magnitude of `x`, the nearer one first. -/
def neighbours (x : Binary64) (exponent : Int) : Decimal × Decimal :=
  let num := x.magnitude * Nat.pow 10 (-exponent).toNat
  let den := scale * Nat.pow 10 exponent.toNat
  let below : Decimal := ⟨num / den, exponent⟩
  let above : Decimal := ⟨num / den + 1, exponent⟩
  if 2 * (num % den) < den then (below, above) else (above, below)

def decimalOfLength? (x : Binary64) (length : Nat) : Option Decimal :=
  let exponent := decimalExponent x.magnitude scale - length
  let (nearer, further) := x.neighbours exponent
  if x.admits nearer then some nearer else if x.admits further then some further else none

def shortestFrom (x : Binary64) (length : Nat) : Nat → Decimal
  | 0 => (x.neighbours (decimalExponent x.magnitude scale - length)).1
  | tries + 1 => (x.decimalOfLength? length).getD (x.shortestFrom (length + 1) tries)

def shortest (x : Binary64) : Decimal :=
  if x.magnitude = 0 then ⟨0, 0⟩
  else
    let d := x.shortestFrom 1 16
    Decimal.reduce d.digits d.exponent

end Binary64
end DesignCompiler
