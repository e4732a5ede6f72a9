import DesignCompiler.Design.Node
import DesignCompiler.Json.Value

set_option autoImplicit false

namespace DesignCompiler

open Json

namespace Fill

def ofValue (v : Value) : Fill :=
  let channel (key : String) : Option Binary64 := (v.get? key).bind Value.toBinary64?
  match channel "r", channel "g", channel "b" with
  | some r, some g, some b => .rgba r g b (channel "a")
  | _, _, _ => .unresolved

end Fill

def Json.Value.isVoid : Value → Bool
  | .null => true
  | .boolean b => !b
  | .number n => n.toBinary64.isZero
  | .string s => s.isEmpty
  | _ => false

/-- An entry of a style object has an effect as a fill that is not void, or as a font size that is
a number other than zero. -/
def Property.ofMember (key : String) (v : Value) : Property :=
  if key = "fill" ∧ ¬ v.isVoid then .fill (.ofValue v)
  else if key = "fontSize" then
    match v.toBinary64? with
    | some size => if size.isZero then .ignored key else .fontSize size
    | none => .ignored key
  else .ignored key

def Style.ofMembers (members : List (String × Value)) : Style :=
  ⟨members.map fun m => .ofMember m.1 m.2⟩

inductive Field where
  | id
  | name
  | type
  | children
  | style
  | characters
deriving DecidableEq, Repr

namespace Field

/-- The fields in the order in which an array holds them. -/
def order : List Field := [.id, .name, .type, .children, .style, .characters]

def key : Field → String
  | .id => "id"
  | .name => "name"
  | .type => "type"
  | .children => "children"
  | .style => "style"
  | .characters => "characters"

def ofKey? (key : String) : Option Field := order.find? fun f => f.key = key

end Field

structure Draft where
  id : Option String := none
  name : Option String := none
  type : Option String := none
  children : Option (Option (List Node)) := none
  style : Option (Option Style) := none
  characters : Option (Option String) := none

namespace Draft

def record : Record := ⟨"RawNode", Field.order.map Field.key⟩

def has : Field → Draft → Bool
  | .id, d => d.id.isSome
  | .name, d => d.name.isSome
  | .type, d => d.type.isSome
  | .children, d => d.children.isSome
  | .style, d => d.style.isSome
  | .characters, d => d.characters.isSome

/-- The node, or the first required field that is missing. A text is kept for text nodes only. -/
def finish (d : Draft) : Except String Node :=
  match d.id, d.name, d.type with
  | none, _, _ => .error Field.id.key
  | _, none, _ => .error Field.name.key
  | _, _, none => .error Field.type.key
  | some id, some name, some type =>
    let kind := Kind.ofName type
    .ok {
      id, name, kind
      children := d.children.join.getD []
      style := d.style.join
      text := if kind = .text then d.characters.join else none }

def form : Form Field Draft Node where
  record := record
  order := Field.order
  ofKey? := Field.ofKey?
  start := {}
  has := has
  finish := finish

end Draft
end DesignCompiler
