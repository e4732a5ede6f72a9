import DesignCompiler.Text.Utf8

set_option autoImplicit false

namespace DesignCompiler.Url

def hexDigitValue? (b : UInt8) : Option UInt8 :=
  if 48 ≤ b && b ≤ 57 then some (b - 48)
  else if 65 ≤ b && b ≤ 70 then some (b - 55)
  else if 97 ≤ b && b ≤ 102 then some (b - 87)
  else none

def hexByte? (high low : UInt8) : Option UInt8 := do
  return (← hexDigitValue? high) * 16 + (← hexDigitValue? low)

/-- Replace the encoded bytes; `%` is 37. -/
def percentDecode : List UInt8 → List UInt8
  | [] => []
  | b :: bs =>
    if b = 37 then
      match bs with
      | high :: low :: rest =>
        match hexByte? high low with
        | some x => x :: percentDecode rest
        | none => b :: percentDecode (high :: low :: rest)
      | rest => b :: percentDecode rest
    else b :: percentDecode bs

def hexDigitUpper (n : Nat) : Char := if n < 10 then Char.ofNat (48 + n) else Char.ofNat (55 + n)

def percentByte (b : UInt8) : List Char :=
  ['%', hexDigitUpper (b.toNat / 16), hexDigitUpper (b.toNat % 16)]

def percentEncode (p : Char → Bool) (cs : List Char) : List Char :=
  cs.flatMap fun c => if p c then (String.utf8EncodeChar c).flatMap percentByte else [c]

def isControl (c : Char) : Bool := c.toNat < 0x20 || 0x7F ≤ c.toNat

def inPathSet (c : Char) : Bool :=
  isControl c || c = ' ' || c = '"' || c = '#' || c = '<' || c = '>' || c = '?' || c = '\x60' ||
    c = '{' || c = '}'

end DesignCompiler.Url
