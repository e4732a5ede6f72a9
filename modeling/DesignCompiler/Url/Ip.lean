import DesignCompiler.Text.Split

set_option autoImplicit false

namespace DesignCompiler.Url

def digitValueOf (c : Char) : Nat :=
  if '0' ≤ c ∧ c ≤ '9' then c.toNat - 48
  else if 'a' ≤ c ∧ c ≤ 'f' then c.toNat - 87
  else if 'A' ≤ c ∧ c ≤ 'F' then c.toNat - 55
  else 16

def isDigitOf (base : Nat) (c : Char) : Bool := digitValueOf c < base

def numeral (base : Nat) (cs : List Char) : Nat :=
  cs.foldl (fun n c => n * base + digitValueOf c) 0

def baseOf : List Char → Nat × List Char
  | '0' :: 'x' :: cs => (16, cs)
  | '0' :: 'X' :: cs => (16, cs)
  | '0' :: c :: cs => (8, c :: cs)
  | cs => (10, cs)

/-- A number of an address. A base without digits writes zero. -/
def addressNumber? (cs : List Char) : Option Nat :=
  if cs.isEmpty then none
  else
    let (base, digits) := baseOf cs
    if digits.all (isDigitOf base) then some (numeral base digits) else none

def hostParts (host : List Char) : List (List Char) :=
  let parts := Text.splitOn (· = '.') host
  if parts.getLast? = some [] then parts.dropLast else parts

def endsInNumber (host : List Char) : Bool :=
  match (hostParts host).getLast? with
  | none => false
  | some last =>
    (!last.isEmpty && last.all (isDigitOf 10)) || (addressNumber? last).isSome

/-- Whether a host that ends in a number is an address: the last number fills the bytes that the
others, of one byte each, leave. -/
def isIpv4 (host : List Char) : Bool :=
  let parts := hostParts host
  if parts.length > 4 then false
  else match parts.mapM addressNumber? with
    | none => false
    | some numbers =>
      match numbers.getLast? with
      | none => false
      | some last =>
        last < Nat.pow 256 (5 - numbers.length) && numbers.dropLast.all (· < 256)

def isByteNumeral (cs : List Char) : Bool :=
  !cs.isEmpty && cs.all (isDigitOf 10) && (cs.length = 1 || cs.head? ≠ some '0') &&
    numeral 10 cs < 256

def isDottedBytes (cs : List Char) : Bool :=
  let parts := Text.splitOn (· = '.') cs
  parts.length = 4 && parts.all isByteNumeral

/-- Whether a text continues an address behind its first `count` pieces; a run of zeros is
`compressed` at most once. -/
def continuesPieces (count : Nat) (compressed : Bool) : List Char → Bool
  | [] => if compressed then count ≤ 8 else count = 8
  | c :: rest =>
    let digits := ((c :: rest).take 4).takeWhile (isDigitOf 16)
    if count = 8 then false
    else if c = ':' then !compressed && continuesPieces (count + 1) true rest
    else
      match h : (c :: rest).drop digits.length with
      | [] => continuesPieces (count + 1) compressed []
      | d :: after =>
        if d = '.' then
          !digits.isEmpty && isDottedBytes (c :: rest) &&
            (if compressed then count ≤ 6 else count = 6)
        else if d = ':' then !after.isEmpty && continuesPieces (count + 1) compressed after
        else false
termination_by cs => cs.length
decreasing_by
  · simp
  · simp
  · have := congrArg List.length h
    simp only [List.length_drop, List.length_cons] at this ⊢
    omega

def isIpv6 (cs : List Char) : Bool :=
  match cs with
  | ':' :: ':' :: rest => continuesPieces 1 true rest
  | ':' :: _ => false
  | [] => false
  | [_] => false
  | cs => continuesPieces 0 false cs

end DesignCompiler.Url
