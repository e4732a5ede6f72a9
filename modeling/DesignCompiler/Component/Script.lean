import DesignCompiler.Design.Node
import DesignCompiler.Text.Lowercase

set_option autoImplicit false

namespace DesignCompiler.Component.Script

def occursIn (part : List Char) : List Char → Bool
  | [] => part.isEmpty
  | c :: cs => part.isPrefixOf (c :: cs) || occursIn part cs

def kitWords : List String := ["button", "icon"]

/-- Whether a name speaks of a component of the kit, in upper or lower case. -/
def namesKit (name : String) : Bool :=
  kitWords.any fun w => occursIn w.toList (Text.lowerText name.toList)

mutual

def hasText : Node → Bool
  | ⟨_, _, kind, children, _, _⟩ => kind = .text || anyHasText children

def anyHasText : List Node → Bool
  | [] => false
  | n :: ns => hasText n || anyHasText ns

end

mutual

def needsKit : Node → Bool
  | ⟨_, name, _, children, _, _⟩ => namesKit name || anyNeedsKit children

def anyNeedsKit : List Node → Bool
  | [] => false
  | n :: ns => needsKit n || anyNeedsKit ns

end

def kitImport : String := "import \x7b HButton, HIcon \x7d from '@hcomponents'"

def textProp : String := "  text?: string"

def imports (root : Node) : List String := if needsKit root then [kitImport] else []

def props (root : Node) : List String := if hasText root then [textProp] else []

def compose (imports props : List String) : String :=
  "\n".intercalate imports ++ "\n\ndefineProps<\x7b\n" ++ "\n".intercalate props ++ "\n\x7d>();"

def render (root : Node) : String := compose (imports root) (props root)

end DesignCompiler.Component.Script
