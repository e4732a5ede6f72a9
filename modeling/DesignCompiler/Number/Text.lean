import DesignCompiler.Number.Decimal

set_option autoImplicit false

namespace DesignCompiler

namespace Decimal

def positional (d : Decimal) : List Char :=
  let digits := decimal d.digits
  let places := (-d.exponent).toNat
  if d.exponent ≥ 0 then digits ++ List.replicate d.exponent.toNat '0'
  else if places < digits.length then
    digits.take (digits.length - places) ++ '.' :: digits.drop (digits.length - places)
  else '0' :: '.' :: (List.replicate (places - digits.length) '0' ++ digits)

def order (d : Decimal) : Int := d.exponent + (decimal d.digits).length - 1

def scientific (d : Decimal) : List Char :=
  let lead := match decimal d.digits with
    | [] => []
    | [c] => [c]
    | c :: rest => c :: '.' :: rest
  lead ++ 'e' :: (if d.order < 0 then '-' else '+') :: decimal d.order.natAbs

end Decimal

namespace Binary64

def leastInteger : Int := -(Nat.pow 2 63)

def greatestInteger : Int := Nat.pow 2 63 - 1

def clampInteger (n : Int) : Int := max leastInteger (min n greatestInteger)

def textWith (finite : Binary64 → List Char) (x : Binary64) : List Char :=
  if x.isNaN then "NaN".toList
  else
    let magnitude := if x.isInfinite then "inf".toList else finite x
    if x.negative then '-' :: magnitude else magnitude

def plain (x : Binary64) : List Char := textWith (fun x => x.shortest.positional) x

def format (x : Binary64) : List Char :=
  if x.isWhole then decimalInt (clampInteger x.wholeBelow) else x.plain

/-- The shortest decimal of a number as messages write it: positional, with a point, while the
leading digit's exponent is from -5 to 15, and scientific beyond. -/
def messageText (x : Binary64) : List Char :=
  textWith (fun x =>
    let d := x.shortest
    if -5 ≤ d.order ∧ d.order ≤ 15 then
      if d.exponent ≥ 0 then d.positional ++ ['.', '0'] else d.positional
    else d.scientific) x

end Binary64
end DesignCompiler
