import DesignCompiler.Component.ClassName
import DesignCompiler.Design.Node
import DesignCompiler.Number.Text

set_option autoImplicit false

namespace DesignCompiler.Component.StyleSheet

def channelMax : Binary64 := .ofNat 255

def half : Binary64 := .div .one (.ofNat 2)

/-- A channel from zero to one as a whole number from 0 to 255, halves up. Other channels are
scaled alike. -/
def channelByte (x : Binary64) : Binary64 := ((x.mul channelMax).add half).floor

def number (x : Binary64) : String := String.ofList x.format

def colour : Fill → String
  | .rgba r g b a =>
    "rgba(" ++ number (channelByte r) ++ ", " ++ number (channelByte g) ++ ", " ++
      number (channelByte b) ++ ", " ++ number (a.getD .one) ++ ")"
  | .unresolved => "transparent"

def declareColour (colour : String) : String := "  background-color: " ++ colour ++ ";\n"

def declareSize (size : String) : String := "  font-size: " ++ size ++ "px;\n"

structure Rule where
  className : String
  colour : Option String
  size : Option String
deriving DecidableEq, Repr

def Rule.ofStyle (name : String) (style : Style) : Rule where
  className := Component.className name
  colour := style.fill.map StyleSheet.colour
  size := style.fontSize.map number

def Rule.ofNode? (n : Node) : Option Rule := n.style.map (.ofStyle n.name)

def Rule.text (r : Rule) : String :=
  "." ++ r.className ++ " \x7b\n" ++ (r.colour.map declareColour).getD "" ++
    (r.size.map declareSize).getD "" ++ "\x7d\n"

mutual

def emit (out : String) : Node → String
  | ⟨_, name, _, children, style, _⟩ =>
    match style with
    | some style => emitAll (out ++ (Rule.ofStyle name style).text) children
    | none => emitAll out children

def emitAll (out : String) : List Node → String
  | [] => out
  | n :: ns => emitAll (emit out n) ns

end

def render (root : Node) : String := emit "" root

end DesignCompiler.Component.StyleSheet
