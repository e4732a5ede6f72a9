import DesignCompiler.Design.Draft
import DesignCompiler.Json.Message

set_option autoImplicit false

/-!
# Reading designs

A node is read from JSON text or from a JSON value. A text is read as it comes and may not give a
field twice; a value holds each key once, in ascending order, and has no limit of depth.
-/
namespace DesignCompiler

open Json

inductive DecodeError where
  | malformed (cause : Json.Error)
  | nodeNotFound (nodeId : String)
deriving DecidableEq, Repr

def DecodeError.message : DecodeError → String
  | .malformed cause => "Malformed design node: " ++ cause.message
  | .nodeNotFound nodeId => "Node not found: " ++ nodeId

def DecodeError.chain (e : DecodeError) : List String :=
  match e with
  | .malformed cause => [e.message, cause.message]
  | .nodeNotFound _ => [e.message]

namespace Draft

/-- Put a field that is read from a text. `child` reads a child and `value` an entry of the style,
unless no more brackets may be opened. -/
def put (child : Option (Outline → Except Issue Node))
    (value : Option (Outline → Except Issue Value)) (field : Field) (d : Draft) (o : Outline) :
    Except Issue Draft :=
  match field with
  | .id => (fun s => { d with id := some s }) <$> o.readString
  | .name => (fun s => { d with name := some s }) <$> o.readString
  | .type => (fun s => { d with type := some s }) <$> o.readString
  | .children =>
    (fun ns => { d with children := some ns }) <$> Outline.readOption (Outline.readList child) o
  | .style =>
    (fun ms => { d with style := some (ms.map fun ms => .ofMembers (sortMembers ms)) }) <$>
      Outline.readOption (Outline.readMap value) o
  | .characters =>
    (fun s => { d with characters := some s }) <$> Outline.readOption Outline.readString o

end Draft

namespace Node

/-- Read a node with at most `depth` brackets open at once. -/
def ofOutline : (depth : Nat) → Outline → Except Issue Node
  | 0 => Draft.form.read none
  | 1 => Draft.form.read (some (Draft.put none none))
  | depth + 2 =>
    Draft.form.read (some (Draft.put (some (ofOutline depth)) (some (Value.ofOutline depth))))

def ofText (text : String) : Except DecodeError Node :=
  (readText (ofOutline nestingLimit) text.toList).mapError .malformed

mutual

def ofValue? : Value → Except Problem Node
  | .object members => do
    let d ← gather {} members
    d.finish.mapError .missingField
  | .array items => do
    let d ← fill items.length Field.order {} items
    d.finish.mapError fun _ => .tooFewElements items.length Draft.record
  | v => .error (v.refusal (.record Draft.record))

def put (field : Field) (d : Draft) : Value → Except Problem Draft
  | .null =>
    match field with
    | .children => .ok { d with children := some none }
    | .style => .ok { d with style := some none }
    | .characters => .ok { d with characters := some none }
    | _ => .error (Value.refusal .string .null)
  | .string s =>
    match field with
    | .id => .ok { d with id := some s }
    | .name => .ok { d with name := some s }
    | .type => .ok { d with type := some s }
    | .characters => .ok { d with characters := some (some s) }
    | .children => .error (Value.refusal .sequence (.string s))
    | .style => .error (Value.refusal .map (.string s))
  | .array items =>
    match field with
    | .children => do return { d with children := some (some (← ofValues items)) }
    | .style => .error (Value.refusal .map (.array items))
    | _ => .error (Value.refusal .string (.array items))
  | .object members =>
    match field with
    | .style => .ok { d with style := some (some (.ofMembers members)) }
    | .children => .error (Value.refusal .sequence (.object members))
    | _ => .error (Value.refusal .string (.object members))
  | v =>
    match field with
    | .children => .error (v.refusal .sequence)
    | .style => .error (v.refusal .map)
    | _ => .error (v.refusal .string)

def ofValues : List Value → Except Problem (List Node)
  | [] => .ok []
  | v :: vs => do return (← ofValue? v) :: (← ofValues vs)

def gather (d : Draft) : List (String × Value) → Except Problem Draft
  | [] => .ok d
  | (key, v) :: rest =>
    match Field.ofKey? key with
    | none => gather d rest
    | some field => do gather (← put field d v) rest

def fill (count : Nat) : List Field → Draft → List Value → Except Problem Draft
  | _, d, [] => .ok d
  | [], _, _ :: _ => .error (.tooManyElements count)
  | field :: fields, d, v :: rest => do fill count fields (← put field d v) rest

end

def ofValue (v : Value) : Except DecodeError Node :=
  (ofValue? v).mapError fun problem => .malformed ⟨problem, none⟩

end Node
end DesignCompiler
