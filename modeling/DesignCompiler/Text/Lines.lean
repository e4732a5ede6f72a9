set_option autoImplicit false

namespace DesignCompiler.Text

def margin (depth : Nat) : List Char := List.replicate (2 * depth) ' '

/-- Put `m` in front of every line but the first. -/
def hang (m : List Char) : List Char → List Char
  | [] => []
  | c :: cs => if c = '\n' then '\n' :: (m ++ hang m cs) else c :: hang m cs

/-- Put `m` in front of every line, empty lines included. -/
def indent (m cs : List Char) : List Char := m ++ hang m cs

theorem hang_append (m as bs : List Char) : hang m (as ++ bs) = hang m as ++ hang m bs := by
  induction as with
  | nil => rfl
  | cons c cs ih => by_cases h : c = '\n' <;> simp [hang, h, ih]

theorem hang_eq_self (m cs : List Char) (h : '\n' ∉ cs) : hang m cs = cs := by
  induction cs with
  | nil => rfl
  | cons c cs ih =>
    have hc : c ≠ '\n' := fun e => h (by simp [e])
    simp [hang, hc, ih (fun e => h (List.mem_cons_of_mem c e))]

theorem margin_succ (depth : Nat) : margin (depth + 1) = ' ' :: ' ' :: margin depth := by
  simp [margin, Nat.mul_add, List.replicate_succ]

end DesignCompiler.Text
