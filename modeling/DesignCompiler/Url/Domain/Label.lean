import DesignCompiler.Text.Direction
import DesignCompiler.Text.Joining
import DesignCompiler.Text.Split
import DesignCompiler.Url.Domain.Characters
import DesignCompiler.Url.Domain.Punycode

set_option autoImplicit false

namespace DesignCompiler.Url.Domain

def isForbidden (c : Char) : Bool :=
  c.toNat ≤ 0x20 || c = '\x7F' || "%#/:<>?@[\\]^|".toList.contains c

def maySpell (c : Char) : Bool :=
  if c.toNat < 0x80 then !c.isUpper && !isForbidden c else isPlain c

/-- The label that an encoded one stands for, if it cannot be written without. -/
def decodeLabel? (encoded : List Char) : Option (List Char) := do
  if encoded.isEmpty || encoded.getLast? = some '-' then none
  let label ← decodePunycode? encoded
  if label.all (·.toNat < 0x80) || !label.all maySpell then none
  return label

def readLabel? (written : List Char) : Option (List Char) :=
  match written with
  | 'x' :: 'n' :: '-' :: '-' :: encoded => decodeLabel? encoded
  | _ => some written

def isRightward (c : Char) : Bool :=
  Text.direction c = .right || Text.direction c = .arabicNumber

def endDirection? (label : List Char) : Option Text.Direction :=
  ((label.map Text.direction).reverse.dropWhile (· = .mark)).head?

def keepsDirection (label : List Char) : Bool :=
  match label with
  | [] => true
  | c :: _ =>
    let directions := label.map Text.direction
    match Text.direction c with
    | .right =>
      directions.all (· ≠ .left) && (endDirection? label).any (fun d =>
        d = .right || d = .number || d = .arabicNumber) &&
        !(directions.contains .number && directions.contains .arabicNumber)
    | .left =>
      directions.all (fun d => d ≠ .right && d ≠ .arabicNumber) &&
        (endDirection? label).any (fun d => d = .left || d = .number)
    | _ => false

def isWellFormed (label : List Char) : Bool :=
  !label.head?.any Text.isMark && Text.joinersFit [] label

def plainText? (cs : List Char) : Option (List Char) :=
  if cs.any isRefused then none else some (cs.flatMap plain)

/-- The plain form of a domain, unless it is none. The labels count as they are written. -/
def read? (cs : List Char) : Option (List Char) := do
  let plain ← plainText? cs
  if plain.any isForbidden then none
  let labels ← (Text.splitOn (· = '.') plain).mapM readLabel?
  if !labels.all isWellFormed then none
  if labels.any (·.any isRightward) && !labels.all keepsDirection then none
  return plain

end DesignCompiler.Url.Domain
