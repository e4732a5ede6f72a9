import DesignCompiler.Number.Binary64

set_option autoImplicit false

namespace DesignCompiler

inductive Kind where
  | container
  | text
  | shape
  | other
deriving DecidableEq, Repr

/-- Frames and groups contain, rectangles and vectors are shapes; names are matched exactly. -/
def Kind.ofName (name : String) : Kind :=
  if name = "FRAME" ∨ name = "GROUP" then .container
  else if name = "TEXT" then .text
  else if name = "RECTANGLE" ∨ name = "VECTOR" then .shape
  else .other

/-- A fill: a colour with channels from zero to one, or one that gives no colour. -/
inductive Fill where
  | rgba (r g b : Binary64) (a : Option Binary64)
  | unresolved
deriving DecidableEq, Repr

/-- An entry of a style. `ignored` holds the key of an entry that has no effect. -/
inductive Property where
  | fill (fill : Fill)
  | fontSize (size : Binary64)
  | ignored (key : String)
deriving DecidableEq, Repr

def Property.fill? : Property → Option Fill
  | .fill f => some f
  | _ => none

def Property.fontSize? : Property → Option Binary64
  | .fontSize n => some n
  | _ => none

def Property.ignored? : Property → Option String
  | .ignored key => some key
  | _ => none

structure Style where
  properties : List Property
deriving DecidableEq, Repr

namespace Style

def fill (s : Style) : Option Fill := s.properties.findSome? Property.fill?

def fontSize (s : Style) : Option Binary64 := s.properties.findSome? Property.fontSize?

def ignored (s : Style) : List String := s.properties.filterMap Property.ignored?

end Style

structure Node where
  id : String
  name : String
  kind : Kind
  children : List Node
  style : Option Style
  text : Option String

namespace Node

def leaf (id name : String) (kind : Kind) : Node := ⟨id, name, kind, [], none, none⟩

instance : Inhabited Node := ⟨leaf "" "" .other⟩

mutual

def count : Node → Nat
  | ⟨_, _, _, children, _, _⟩ => countAll children + 1

def countAll : List Node → Nat
  | [] => 0
  | n :: ns => n.count + countAll ns

end

mutual

def depth : Node → Nat
  | ⟨_, _, _, children, _, _⟩ => depthAll children + 1

def depthAll : List Node → Nat
  | [] => 0
  | n :: ns => max n.depth (depthAll ns)

end

mutual

def preorder : Node → List Node
  | ⟨id, name, kind, children, style, text⟩ =>
    ⟨id, name, kind, children, style, text⟩ :: preorderAll children

def preorderAll : List Node → List Node
  | [] => []
  | n :: ns => n.preorder ++ preorderAll ns

end

theorem depth_eq (n : Node) : n.depth = depthAll n.children + 1 := by cases n; rfl

mutual

theorem length_preorder : (n : Node) → n.preorder.length = n.count
  | ⟨_, _, _, children, _, _⟩ => by
    simp [preorder, count, length_preorderAll children]

theorem length_preorderAll : (ns : List Node) → (preorderAll ns).length = countAll ns
  | [] => rfl
  | n :: ns => by simp [preorderAll, countAll, length_preorder n, length_preorderAll ns]

end

end Node
end DesignCompiler
