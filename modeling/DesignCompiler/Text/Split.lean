set_option autoImplicit false

namespace DesignCompiler.Text

def splitOn (p : Char → Bool) : List Char → List (List Char)
  | [] => [[]]
  | c :: cs =>
    if p c then [] :: splitOn p cs
    else match splitOn p cs with
      | part :: parts => (c :: part) :: parts
      | [] => [[c]]

def joinWith (separator : Char) : List (List Char) → List Char
  | [] => []
  | [part] => part
  | part :: parts => part ++ separator :: joinWith separator parts

theorem splitOn_ne_nil (p : Char → Bool) (cs : List Char) : splitOn p cs ≠ [] := by
  cases cs with
  | nil => simp [splitOn]
  | cons c cs =>
    simp only [splitOn]
    split
    · simp
    · split <;> simp

theorem not_mem_of_mem_splitOn {p : Char → Bool} {cs part : List Char} (h : part ∈ splitOn p cs) :
    ∀ c ∈ part, p c = false := by
  induction cs generalizing part with
  | nil => simp_all [splitOn]
  | cons d cs ih =>
    simp only [splitOn] at h
    split at h
    · rcases List.mem_cons.1 h with rfl | h
      · simp
      · exact ih h
    · split at h
      · rename_i hd _ first parts heq
        rcases List.mem_cons.1 h with rfl | h
        · intro c hc
          rcases List.mem_cons.1 hc with rfl | hc
          · simpa using hd
          · have hfirst : first ∈ splitOn p cs := by simp [heq]
            exact ih hfirst c hc
        · have hpart : part ∈ splitOn p cs := by simp [heq, h]
          exact ih hpart
      · rename_i heq
        exact absurd heq (splitOn_ne_nil p cs)

theorem joinWith_splitOn (separator : Char) (cs : List Char) :
    joinWith separator (splitOn (· = separator) cs) = cs := by
  induction cs with
  | nil => rfl
  | cons c cs ih =>
    simp only [splitOn]
    split
    · rename_i h
      simp only [decide_eq_true_eq] at h
      cases hs : splitOn (· = separator) cs with
      | nil => exact absurd hs (splitOn_ne_nil _ cs)
      | cons part parts =>
        rw [hs] at ih
        simp [joinWith, ih, h]
    · split
      · rename_i part parts heq
        rw [heq] at ih
        cases parts with
        | nil => simpa [joinWith] using ih
        | cons next parts => simpa [joinWith] using ih
      · rename_i heq
        exact absurd heq (splitOn_ne_nil _ cs)

theorem splitOn_eq_singleton {p : Char → Bool} {cs : List Char} (h : ∀ c ∈ cs, p c = false) :
    splitOn p cs = [cs] := by
  induction cs with
  | nil => rfl
  | cons c cs ih =>
    rw [splitOn, h c List.mem_cons_self, ih fun d hd => h d (List.mem_cons_of_mem c hd)]
    rfl

theorem splitOn_append_cons {p : Char → Bool} {part : List Char} {separator : Char}
    (h : ∀ c ∈ part, p c = false) (hseparator : p separator = true) (cs : List Char) :
    splitOn p (part ++ separator :: cs) = part :: splitOn p cs := by
  induction part with
  | nil => rw [List.nil_append, splitOn, if_pos hseparator]
  | cons c part ih =>
    rw [List.cons_append, splitOn, h c List.mem_cons_self,
      ih fun d hd => h d (List.mem_cons_of_mem c hd)]
    rfl

theorem splitOn_joinWith {p : Char → Bool} {separator : Char} (hseparator : p separator = true)
    {parts : List (List Char)} (hne : parts ≠ []) (h : ∀ part ∈ parts, ∀ c ∈ part, p c = false) :
    splitOn p (joinWith separator parts) = parts := by
  induction parts with
  | nil => exact absurd rfl hne
  | cons part parts ih =>
    have hpart := h part List.mem_cons_self
    cases parts with
    | nil => exact splitOn_eq_singleton hpart
    | cons next parts =>
      rw [joinWith, splitOn_append_cons hpart hseparator,
        ih (List.cons_ne_nil _ _) fun t ht => h t (List.mem_cons_of_mem part ht)]
      · simp

theorem mem_joinWith {separator c : Char} {parts : List (List Char)}
    (h : c ∈ joinWith separator parts) : c = separator ∨ ∃ part ∈ parts, c ∈ part := by
  induction parts with
  | nil => cases h
  | cons part parts ih =>
    cases parts with
    | nil => exact .inr ⟨part, List.mem_cons_self, h⟩
    | cons next parts =>
      rw [joinWith] at h
      · rcases List.mem_append.1 h with h | h
        · exact .inr ⟨part, List.mem_cons_self, h⟩
        · rcases List.mem_cons.1 h with h | h
          · exact .inl h
          · exact (ih h).imp_right fun ⟨t, ht, hc⟩ => ⟨t, List.mem_cons_of_mem part ht, hc⟩
      · simp

end DesignCompiler.Text
