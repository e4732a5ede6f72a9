set_option autoImplicit false

namespace DesignCompiler.Text

/-- The Unicode property `White_Space`. -/
def isBlank (c : Char) : Bool :=
  let n := c.toNat
  (9 ≤ n && n ≤ 13) || n == 0x20 || n == 0x85 || n == 0xA0 || n == 0x1680 ||
    (0x2000 ≤ n && n ≤ 0x200A) || n == 0x2028 || n == 0x2029 || n == 0x202F || n == 0x205F ||
    n == 0x3000

def dropEnd (p : Char → Bool) (cs : List Char) : List Char :=
  cs.foldr (fun c rest => if rest.isEmpty && p c then [] else c :: rest) []

def dropEnds (p : Char → Bool) (cs : List Char) : List Char := dropEnd p (cs.dropWhile p)

def trim (cs : List Char) : List Char := dropEnds isBlank cs

theorem dropEnd_append {p : Char → Bool} {right : List Char} (h : ∀ c ∈ right, p c = true)
    (cs : List Char) : dropEnd p (cs ++ right) = dropEnd p cs := by
  have hright : dropEnd p right = [] := by
    induction right with
    | nil => rfl
    | cons c right ih =>
      rw [dropEnd, List.foldr_cons, ← dropEnd, ih fun d hd => h d (List.mem_cons_of_mem c hd),
        h c List.mem_cons_self]
      rfl
  rw [dropEnd, List.foldr_append, ← dropEnd, hright, dropEnd]

theorem dropEnd_eq_self {p : Char → Bool} {cs : List Char} (h : ∀ c ∈ cs, p c = false) :
    dropEnd p cs = cs := by
  induction cs with
  | nil => rfl
  | cons c cs ih =>
    rw [dropEnd, List.foldr_cons, ← dropEnd, ih fun d hd => h d (List.mem_cons_of_mem c hd),
      h c List.mem_cons_self, Bool.and_false]
    rfl

theorem dropEnds_surround {p : Char → Bool} {left right : List Char}
    (hleft : ∀ c ∈ left, p c = true) (hright : ∀ c ∈ right, p c = true) (cs : List Char) :
    dropEnds p (left ++ cs ++ right) = dropEnds p cs := by
  rw [dropEnds, dropEnds, List.append_assoc, List.dropWhile_append_of_pos hleft,
    List.dropWhile_append]
  split
  · -- Nothing is left of the text in the middle, and nothing of what follows it.
    rename_i hempty
    have hall : (right ++ []).dropWhile p = [] := List.dropWhile_append_of_pos hright
    rw [List.append_nil] at hall
    rw [hall, List.isEmpty_iff.1 hempty]
  · exact dropEnd_append hright _

theorem dropEnds_eq_self {p : Char → Bool} {cs : List Char} (h : ∀ c ∈ cs, p c = false) :
    dropEnds p cs = cs := by
  have hkept : cs.dropWhile p = cs := by
    cases cs with
    | nil => rfl
    | cons c cs => exact List.dropWhile_cons_of_neg (by simp [h c List.mem_cons_self])
  rw [dropEnds, hkept, dropEnd_eq_self h]

theorem dropEnds_append {p : Char → Bool} {left cs right : List Char}
    (hleft : ∀ c ∈ left, p c = true) (hcs : ∀ c ∈ cs, p c = false)
    (hright : ∀ c ∈ right, p c = true) : dropEnds p (left ++ cs ++ right) = cs := by
  rw [dropEnds_surround hleft hright, dropEnds_eq_self hcs]

end DesignCompiler.Text
