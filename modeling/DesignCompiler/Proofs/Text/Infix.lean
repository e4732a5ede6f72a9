import DesignCompiler.Text.Lowercase

set_option autoImplicit false

/-!
# Words inside texts

A word occurs on one side of every character that it does not hold itself. So what stands between
the occurrences of a word may be exchanged, as the two small forms of sigma are when a text is
lowered as a whole and not character by character.
-/
namespace DesignCompiler.Text

theorem prefix_of_prefix_append_cons {c : Char} {w bs : List Char} (as : List Char) (hc : c ∉ w)
    (h : w <+: as ++ c :: bs) : w <+: as := by
  induction as generalizing w with
  | nil =>
    cases w with
    | nil => exact List.nil_prefix
    | cons d w =>
      obtain ⟨rfl, -⟩ := List.cons_prefix_cons.1 h
      exact absurd List.mem_cons_self hc
  | cons a as ih =>
    cases w with
    | nil => exact List.nil_prefix
    | cons d w =>
      obtain ⟨rfl, hrest⟩ := List.cons_prefix_cons.1 h
      have hw : c ∉ w := fun hm => hc (List.mem_cons_of_mem d hm)
      exact List.cons_prefix_cons.2 ⟨rfl, ih hw hrest⟩

theorem infix_append_cons_iff {c : Char} {w : List Char} (hw : w ≠ []) (hc : c ∉ w)
    (as bs : List Char) : w <:+: as ++ c :: bs ↔ w <:+: as ∨ w <:+: bs := by
  constructor
  · intro h
    induction as with
    | nil =>
      rcases List.infix_cons_iff.1 h with h | h
      · exact absurd (List.prefix_nil.1 (prefix_of_prefix_append_cons [] hc h)) hw
      · exact .inr h
    | cons a as ih =>
      rcases List.infix_cons_iff.1 h with h | h
      · exact .inl (prefix_of_prefix_append_cons (a :: as) hc h).isInfix
      · exact (ih h).imp_left List.infix_cons
  · rintro (h | h)
    · exact h.trans (List.prefix_append as (c :: bs)).isInfix
    · exact (List.infix_cons h).trans (List.suffix_append as (c :: bs)).isInfix

theorem lower_sigma : lower 'Σ' = ['σ'] := by decide +kernel

/-- A word without sigmas does not tell whether a text was lowered as a whole. What was lowered
already is kept in front, where the word may have begun. -/
theorem infix_append_lowerBehind_iff {w : List Char} (hw : w ≠ []) (hfinal : 'ς' ∉ w)
    (hsigma : 'σ' ∉ w) (cs before done : List Char) :
    w <:+: done ++ lowerBehind before cs ↔ w <:+: done ++ lowerAll cs := by
  induction cs generalizing before done with
  | nil => rfl
  | cons c cs ih =>
    rw [lowerBehind, lowerAll, List.flatMap_cons, ← lowerAll, lowerBetween]
    split
    · rename_i hc
      obtain ⟨rfl, -⟩ := hc
      rw [lower_sigma, List.singleton_append, List.singleton_append,
        infix_append_cons_iff hw hfinal, infix_append_cons_iff hw hsigma]
      exact or_congr_right (ih ('Σ' :: before) [])
    · rw [← List.append_assoc, ← List.append_assoc]
      exact ih (c :: before) (done ++ lower c)

theorem infix_lowerText_iff {w : List Char} (hw : w ≠ []) (hfinal : 'ς' ∉ w) (hsigma : 'σ' ∉ w)
    (cs : List Char) : w <:+: lowerText cs ↔ w <:+: lowerAll cs :=
  infix_append_lowerBehind_iff hw hfinal hsigma cs [] []

example : lowerText "ΑΣ".toList = "ας".toList ∧ lowerAll "ΑΣ".toList = "ασ".toList := by
  decide +kernel

end DesignCompiler.Text
