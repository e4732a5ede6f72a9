import DesignCompiler.Text.Blank
import Mathlib.Data.List.TakeWhile

set_option autoImplicit false

namespace DesignCompiler.Text

/-- The text is `core` with white space put around it. -/
def Pads (core cs : List Char) : Prop :=
  ∃ left right, cs = left ++ core ++ right ∧
    (∀ c ∈ left, isBlank c = true) ∧ ∀ c ∈ right, isBlank c = true

theorem exists_dropEnd (p : Char → Bool) (cs : List Char) :
    ∃ right, cs = dropEnd p cs ++ right ∧ ∀ c ∈ right, p c = true := by
  induction cs with
  | nil => exact ⟨[], rfl, by simp⟩
  | cons c cs ih =>
    obtain ⟨right, hcs, hright⟩ := ih
    rw [dropEnd, List.foldr_cons, ← dropEnd]
    split
    · rename_i hdropped
      obtain ⟨hempty, hc⟩ := Bool.and_eq_true_iff.1 hdropped
      rw [List.isEmpty_iff.1 hempty, List.nil_append] at hcs
      exact ⟨c :: cs, rfl, List.forall_mem_cons.2 ⟨hc, hcs ▸ hright⟩⟩
    · exact ⟨right, congrArg (c :: ·) hcs, hright⟩

theorem pads_trim (cs : List Char) : Pads (trim cs) cs := by
  obtain ⟨right, hcs, hright⟩ := exists_dropEnd isBlank (cs.dropWhile isBlank)
  refine ⟨cs.takeWhile isBlank, right, ?_, fun c hc => List.mem_takeWhile_imp hc, hright⟩
  rw [trim, dropEnds, List.append_assoc, ← hcs, List.takeWhile_append_dropWhile]

variable {core cs : List Char}

theorem Pads.trim_eq (h : Pads core cs) : trim cs = trim core := by
  obtain ⟨left, right, rfl, hleft, hright⟩ := h
  exact dropEnds_surround hleft hright core

theorem trim_trim (cs : List Char) : trim (trim cs) = trim cs := (pads_trim cs).trim_eq.symm

theorem trim_eq_nil_iff : trim cs = [] ↔ ∀ c ∈ cs, isBlank c = true := by
  constructor
  · intro h
    obtain ⟨left, right, hcs, hleft, hright⟩ := pads_trim cs
    rw [h, List.append_nil] at hcs
    rw [hcs]
    exact List.forall_mem_append.2 ⟨hleft, hright⟩
  · intro h
    have hpads : Pads [] cs := ⟨cs, [], by simp, h, by simp⟩
    exact hpads.trim_eq

end DesignCompiler.Text
