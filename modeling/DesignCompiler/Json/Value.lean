import DesignCompiler.Json.Reading

set_option autoImplicit false

namespace DesignCompiler.Json

inductive Value where
  | null
  | boolean (value : Bool)
  | number (value : Number)
  | string (value : String)
  | array (items : List Value)
  | object (members : List (String × Value))

def insertMember {α : Type} (key : String) (x : α) : List (String × α) → List (String × α)
  | [] => [(key, x)]
  | (k, y) :: rest =>
    if key < k then (key, x) :: (k, y) :: rest
    else if key = k then (key, x) :: rest
    else (k, y) :: insertMember key x rest

/-- Members in ascending order, the last of each key. -/
def sortMembers {α : Type} (members : List (String × α)) : List (String × α) :=
  members.foldl (fun sorted m => insertMember m.1 m.2 sorted) []

namespace Value

def ofOutline : (depth : Nat) → Outline → Except Issue Value
  | _, .null _ _ => .ok .null
  | _, .boolean b _ _ => .ok (.boolean b)
  | _, .number n _ _ => n.map .number
  | _, .string s _ _ => s.map .string
  | 0, .array start items close => .array <$> Outline.readList none (.array start items close)
  | depth + 1, .array start items close =>
    .array <$> Outline.readList (some (ofOutline depth)) (.array start items close)
  | 0, .object start members close =>
    (fun ms => .object (sortMembers ms)) <$> Outline.readMap none (.object start members close)
  | depth + 1, .object start members close =>
    (fun ms => .object (sortMembers ms)) <$>
      Outline.readMap (some (ofOutline depth)) (.object start members close)
  | _, .broken _ f => .error f.read

def ofText (text : List Char) : Except Error Value := readText (ofOutline nestingLimit) text

def toBinary64? : Value → Option Binary64
  | .number n => some n.toBinary64
  | _ => none

def get? (v : Value) (key : String) : Option Value :=
  match v with
  | .object members => members.lookup key
  | _ => none

def found : Value → Found
  | .null => .null
  | .boolean b => .boolean b
  | .number n => .number n
  | .string s => .string s
  | .array _ => .sequence
  | .object _ => .map

def refusal (expected : Expected) (v : Value) : Problem := .invalidType v.found expected

end Value
end DesignCompiler.Json
