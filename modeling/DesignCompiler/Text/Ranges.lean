set_option autoImplicit false

namespace DesignCompiler.Text

def inRanges (ranges : List (Nat × Nat)) (n : Nat) : Bool :=
  ranges.any fun r => r.1 ≤ n && n ≤ r.2

end DesignCompiler.Text
