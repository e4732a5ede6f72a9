import DesignCompiler.Number.Binary64
import DesignCompiler.Number.Text

set_option autoImplicit false

/-!
# What can be wrong with a JSON text

A `Problem` is either a break of the grammar or a value that does not fit what is read from it. An
`Issue` is a problem with its place in the text, an `Error` what is reported: a problem with a line
and a column, or without when a value was read that has no text.
-/
namespace DesignCompiler.Json

inductive Number where
  | natural (n : Nat)
  | negative (n : Int)
  | real (x : Binary64)
deriving DecidableEq, Repr

def Number.toBinary64 : Number → Binary64
  | .natural n => .ofNat n
  | .negative n => .ofInt n
  | .real x => x

/-- A list of fields that is read from an object, or from an array in this order. -/
structure Record where
  name : String
  fields : List String
deriving DecidableEq, Repr

inductive Expected where
  | string
  | sequence
  | map
  | record (r : Record)
deriving DecidableEq, Repr

inductive Found where
  | null
  | boolean (value : Bool)
  | number (value : Number)
  | string (value : String)
  | sequence
  | map
deriving DecidableEq, Repr

inductive Problem where
  | endInList
  | endInObject
  | endInString
  | endInValue
  | expectedColon
  | expectedListEnd
  | expectedObjectEnd
  | expectedWord
  | expectedValue
  | keyNotString
  | invalidEscape
  | invalidNumber
  | numberOutOfRange
  | loneSurrogate
  | unfinishedSurrogatePair
  | controlCharacter
  | trailingComma
  | trailingCharacters
  | nestedTooDeep
  | invalidType (found : Found) (expected : Expected)
  | tooFewElements (count : Nat) (record : Record)
  | tooManyElements (count : Nat)
  | missingField (name : String)
  | duplicateField (name : String)
deriving DecidableEq, Repr

/-- A place in a text: `rest` lies ahead, and the first `bytes` bytes of it count as read. -/
structure Mark where
  rest : List Char
  bytes : Nat
deriving DecidableEq, Repr

structure Issue where
  problem : Problem
  mark : Mark
deriving DecidableEq, Repr

/-- Everything before `rest` is read. -/
def Problem.before (p : Problem) (rest : List Char) : Issue := ⟨p, ⟨rest, 0⟩⟩

/-- The next byte counts as read. -/
def Problem.at (p : Problem) (rest : List Char) : Issue := ⟨p, ⟨rest, 1⟩⟩

structure Position where
  line : Nat
  column : Nat
deriving DecidableEq, Repr

namespace Position

def start : Position := ⟨1, 0⟩

def read (p : Position) (c : Char) : Position :=
  if c = '\n' then ⟨p.line + 1, 0⟩ else ⟨p.line, p.column + c.utf8Size⟩

/-- Read `bytes` bytes, or all there are; the last character may be read in part. -/
def readBytes (p : Position) : Nat → List Char → Position
  | 0, _ => p
  | _, [] => p
  | bytes, c :: cs =>
    if bytes < c.utf8Size then ⟨p.line, p.column + bytes⟩
    else (p.read c).readBytes (bytes - c.utf8Size) cs

end Position

def Mark.position (m : Mark) (text : List Char) : Position :=
  let seen := (text.take (text.length - m.rest.length)).foldl Position.read Position.start
  seen.readBytes m.bytes m.rest

structure Error where
  problem : Problem
  position : Option Position
deriving DecidableEq, Repr

def Issue.report (i : Issue) (text : List Char) : Error := ⟨i.problem, some (i.mark.position text)⟩

end DesignCompiler.Json
