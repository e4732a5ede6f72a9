import DesignCompiler.Component.ClassName
import DesignCompiler.Design.Node
import DesignCompiler.Text.Lines

set_option autoImplicit false

/-!
# The template

The markup of a design: a container is a block around its children, each on lines of its own and
one level deeper; a text is a span, whose further lines keep the depth of the span; everything else
is an empty block, whatever its children.
-/
namespace DesignCompiler.Component.Template

def openTag (element cls : String) : String := "<" ++ element ++ " class=\"" ++ cls ++ "\">"

def closeTag (element : String) : String := "</" ++ element ++ ">"

def marginText (depth : Nat) : String := String.ofList (Text.margin depth)

/-- A text whose further lines start at this depth. -/
def hangText (depth : Nat) (text : String) : String :=
  String.ofList (Text.hang (Text.margin depth) text.toList)

mutual

def emit (out : String) (depth : Nat) : Node → String
  | ⟨_, name, .container, children, _, _⟩ =>
    emitAll (out ++ marginText depth ++ openTag "div" (className name)) (depth + 1) children
      ++ "\n" ++ marginText depth ++ closeTag "div"
  | ⟨_, name, .text, _, _, text⟩ =>
    out ++ marginText depth ++ openTag "span" (className name) ++ hangText depth (text.getD "")
      ++ closeTag "span"
  | ⟨_, name, _, _, _, _⟩ =>
    out ++ marginText depth ++ openTag "div" (className name) ++ closeTag "div"

def emitAll (out : String) (depth : Nat) : List Node → String
  | [] => out
  | n :: ns => emitAll (emit (out ++ "\n") depth n) depth ns

end

def render (root : Node) : String := emit "" 0 root

end DesignCompiler.Component.Template
