import DesignCompiler.Text.Lowercase

set_option autoImplicit false

namespace DesignCompiler.Component

def isKept (c : Char) : Bool := ('a' ≤ c && c ≤ 'z') || ('0' ≤ c && c ≤ '9')

/-- The class read so far; `gap` tells that characters were left out since. -/
structure ClassScan where
  name : List Char := []
  gap : Bool := false

/-- A gap shows as a dash once a kept character follows, unless nothing came before it. -/
def ClassScan.step (s : ClassScan) (c : Char) : ClassScan :=
  if isKept c then
    ⟨s.name ++ (if s.gap && !s.name.isEmpty then ['-', c] else [c]), false⟩
  else ⟨s.name, true⟩

def classChars (name : List Char) : List Char :=
  ((Text.lowerAll name).foldl ClassScan.step {}).name

def className (name : String) : String := String.ofList (classChars name.toList)

end DesignCompiler.Component
