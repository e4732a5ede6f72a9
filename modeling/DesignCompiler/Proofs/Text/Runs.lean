import DesignCompiler.Text.Split

set_option autoImplicit false

namespace DesignCompiler.Text

/-- The longest parts of a text, none of them empty, whose characters all satisfy `p`. -/
def runs (p : Char → Bool) (cs : List Char) : List (List Char) :=
  (splitOn (!p ·) cs).filter (!·.isEmpty)

section
variable {p : Char → Bool} {c : Char} {cs : List Char}

theorem runs_nil : runs p [] = [] := rfl

theorem runs_cons_of_neg (h : p c = false) : runs p (c :: cs) = runs p cs := by
  rw [runs, splitOn, if_pos (by simp [h])]
  rfl

theorem runs_cons_of_pos (h : p c = true) :
    runs p (c :: cs) = (c :: cs.takeWhile p) :: runs p (cs.dropWhile p) := by
  have hrun : ∀ d ∈ c :: cs.takeWhile p, (!p d) = false := by
    intro d hd
    rcases List.mem_cons.1 hd with rfl | hd
    · simp [h]
    · simp [List.all_eq_true.1 List.all_takeWhile d hd]
  have hsplit : c :: cs = (c :: cs.takeWhile p) ++ cs.dropWhile p := by
    rw [List.cons_append, List.takeWhile_append_dropWhile]
  cases hrest : cs.dropWhile p with
  | nil =>
    rw [hsplit, hrest, List.append_nil, runs, splitOn_eq_singleton hrun]
    rfl
  | cons d ds =>
    have hd : p d = false := by
      have hhead := List.head_dropWhile_not p (l := cs) (by simp [hrest])
      simpa [hrest] using hhead
    rw [runs_cons_of_neg hd, hsplit, hrest, runs, splitOn_append_cons hrun (by simp [hd])]
    rfl

theorem of_mem_runs {run : List Char} (h : run ∈ runs p cs) :
    run ≠ [] ∧ ∀ c ∈ run, p c = true := by
  obtain ⟨hpart, hne⟩ := List.mem_filter.1 h
  refine ⟨by simpa using hne, fun c hc => ?_⟩
  have hnot := not_mem_of_mem_splitOn hpart c hc
  simpa using hnot

theorem runs_joinWith {separator : Char} {parts : List (List Char)}
    (hseparator : p separator = false) (h : ∀ part ∈ parts, part ≠ [] ∧ ∀ c ∈ part, p c = true) :
    runs p (joinWith separator parts) = parts := by
  cases parts with
  | nil => rfl
  | cons part parts =>
    have hparts : ∀ t ∈ part :: parts, ∀ c ∈ t, (!p c) = false := by
      intro t ht c hc
      simp [(h t ht).2 c hc]
    rw [runs, splitOn_joinWith (by simp [hseparator]) (List.cons_ne_nil _ _) hparts,
      List.filter_eq_self]
    intro t ht
    simpa using (h t ht).1

theorem joinWith_cons (separator : Char) (part : List Char) (parts : List (List Char)) :
    joinWith separator (part :: parts) = part ++ parts.flatMap (separator :: ·) := by
  induction parts generalizing part with
  | nil => simp [joinWith]
  | cons next parts ih => rw [joinWith, ih, List.flatMap_cons, List.cons_append]; simp

theorem joinWith_append {separator : Char} {as bs : List (List Char)} (ha : as ≠ [])
    (hb : bs ≠ []) : joinWith separator (as ++ bs) =
      joinWith separator as ++ separator :: joinWith separator bs := by
  cases as with
  | nil => exact absurd rfl ha
  | cons a as =>
    cases bs with
    | nil => exact absurd rfl hb
    | cons b bs => simp [joinWith_cons]

theorem splitOn_append_separator {separator : Char} (hseparator : p separator = true)
    (as bs : List Char) : splitOn p (as ++ separator :: bs) = splitOn p as ++ splitOn p bs := by
  induction as with
  | nil =>
    rw [List.nil_append, splitOn.eq_2, if_pos hseparator]
    rfl
  | cons c cs ih =>
    rw [List.cons_append, splitOn, splitOn, ih]
    split
    · rfl
    · cases hs : splitOn p cs with
      | nil => exact absurd hs (splitOn_ne_nil p cs)
      | cons part parts => rfl

theorem head?_joinWith_runs (separator : Char) :
    (joinWith separator (runs p cs)).head? = cs.find? p := by
  induction cs with
  | nil => rfl
  | cons c cs ih =>
    cases hc : p c with
    | false => rw [runs_cons_of_neg hc, ih, List.find?_cons_of_neg (by simp [hc])]
    | true =>
      rw [runs_cons_of_pos hc, joinWith_cons, List.find?_cons_of_pos hc]
      rfl

theorem splitOn_flatMap_concat {separator : Char} {parts : List (List Char)}
    (hseparator : p separator = true) (h : ∀ part ∈ parts, ∀ c ∈ part, p c = false) :
    splitOn p (parts.flatMap (· ++ [separator])) = parts ++ [[]] := by
  induction parts with
  | nil => rfl
  | cons part parts ih =>
    have hrest := ih fun t ht => h t (List.mem_cons_of_mem part ht)
    rw [List.flatMap_cons, List.append_assoc, List.singleton_append,
      splitOn_append_cons (h part List.mem_cons_self) hseparator, hrest]
    rfl

end
end DesignCompiler.Text
