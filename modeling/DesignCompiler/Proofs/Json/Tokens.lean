import DesignCompiler.Proofs.Json.Strings

set_option autoImplicit false

namespace DesignCompiler.Json

def AllDigits (ds : List Char) : Prop := ∀ c ∈ ds, isDigit c = true

inductive IsWhole : List Char → Prop
  | zero : IsWhole ['0']
  | digits {c : Char} {ds : List Char} (hzero : c ≠ '0') (hc : isDigit c = true)
      (hds : AllDigits ds) : IsWhole (c :: ds)

inductive IsFraction : List Char → Prop
  | none : IsFraction []
  | digits {ds : List Char} (hne : ds ≠ []) (hds : AllDigits ds) : IsFraction ('.' :: ds)

inductive IsExponent : List Char → Prop
  | none : IsExponent []
  | digits {c d : Char} {sign ds : List Char} (hc : c = 'e' ∨ c = 'E')
      (hsign : sign ∈ [[], ['+'], ['-']]) (hd : isDigit d = true) (hds : AllDigits ds) :
      IsExponent (c :: (sign ++ d :: ds))

inductive IsNumber : List Char → Prop
  | parts {sign whole fraction exponent : List Char} (hsign : sign ∈ [[], ['-']])
      (hwhole : IsWhole whole) (hfraction : IsFraction fraction) (hexponent : IsExponent exponent) :
      IsNumber (sign ++ (whole ++ (fraction ++ exponent)))

section Numbers
variable {s r : List Char}

theorem allDigits_takeWhile (s : List Char) : AllDigits (s.takeWhile isDigit) :=
  fun _ h => isDigit_of_mem_takeWhile h

theorem skipTail_of_exponent {e : List Char} (h : IsExponent e) (hr : Stops r) :
    skipTail (e ++ r) = .ok r := by
  cases h with
  | none => exact skips_tail r hr
  | @digits c d sign ds hc hsign hd hds =>
    have hpoint : c ≠ '.' := by rcases hc with rfl | rfl <;> decide
    have happend : sign ++ d :: ds ++ r = sign ++ d :: (ds ++ r) := by simp
    rw [List.cons_append, skipTail, if_neg hpoint, if_pos hc, happend,
      skipExponent_signed hsign hd, dropWhile_digits hds hr.digit]

theorem IsExponent.head {e : List Char} (h : IsExponent e) (hr : Stops r) :
    ∀ c ∈ (e ++ r).head?, isDigit c = false := by
  cases h with
  | none => exact hr.digit
  | digits hc =>
    rintro _ ⟨⟩
    rcases hc with rfl | rfl <;> decide

theorem skipTail_of_fraction {f e : List Char} (hf : IsFraction f) (he : IsExponent e)
    (hr : Stops r) : skipTail (f ++ (e ++ r)) = .ok r := by
  cases hf with
  | none => exact skipTail_of_exponent he hr
  | @digits ds hne hds =>
    rw [List.cons_append, skipTail, if_pos rfl]
    have hhead := he.head hr
    cases he with
    | none => exact skips_fraction hds hne r hr
    | @digits c d sign es hc hsign hd hes =>
      have happend : sign ++ d :: es ++ r = sign ++ d :: (es ++ r) := by simp
      refine (skipFraction_append hds hne hhead).trans ?_
      change (if c = 'e' ∨ c = 'E' then skipExponent (sign ++ d :: es ++ r) else _) = _
      rw [if_pos hc, happend, skipExponent_signed hsign hd, dropWhile_digits hes hr.digit]

theorem IsFraction.head {f e : List Char} (hf : IsFraction f) (he : IsExponent e)
    (hr : Stops r) : ∀ c ∈ (f ++ (e ++ r)).head?, isDigit c = false := by
  cases hf with
  | none => exact he.head hr
  | digits =>
    rintro _ ⟨⟩
    decide

theorem skipNumber_of_isNumber {d : List Char} (h : IsNumber d) (hr : Stops r) :
    skipNumber (d ++ r) = .ok r := by
  obtain ⟨hsign, hwhole, hfraction, hexponent⟩ := h
  rename_i sign whole fraction exponent
  have htail := skipTail_of_fraction hfraction hexponent hr
  have hhead := hfraction.head hexponent hr
  have hunsigned : skipUnsigned (whole ++ (fraction ++ (exponent ++ r))) = .ok r := by
    cases hwhole with
    | zero =>
      rw [List.singleton_append, skipUnsigned_zero hhead]
      exact htail
    | digits hzero hc hds =>
      rw [List.cons_append, skipUnsigned_digit hzero hc, dropWhile_digits hds hhead]
      exact htail
  have hplus : ∀ t, whole ++ (fraction ++ (exponent ++ r)) ≠ '-' :: t := by
    intro t ht
    rw [ht] at hunsigned
    exact nomatch hunsigned
  simp only [List.append_assoc]
  simp only [List.mem_cons, List.not_mem_nil, or_false] at hsign
  rcases hsign with rfl | rfl
  · rw [List.nil_append]
    unfold skipNumber
    split
    · rename_i t ht
      exact absurd ht (hplus t)
    · exact hunsigned
  · exact hunsigned

theorem exponent_of_skipExponent (h : skipExponent s = .ok r) {c : Char} (hc : c = 'e' ∨ c = 'E') :
    ∃ e, c :: s = e ++ r ∧ IsExponent e := by
  obtain ⟨sign, d, t, rfl, hsign, hd, rfl⟩ := exists_of_skipExponent h
  refine ⟨c :: (sign ++ d :: t.takeWhile isDigit), ?_,
    .digits hc hsign hd (allDigits_takeWhile t)⟩
  simp [List.takeWhile_append_dropWhile]

theorem parts_of_skipTail (h : skipTail s = .ok r) :
    ∃ f e, s = f ++ (e ++ r) ∧ IsFraction f ∧ IsExponent e := by
  cases s with
  | nil =>
    cases h
    exact ⟨[], [], rfl, .none, .none⟩
  | cons c t =>
    rw [skipTail] at h
    by_cases hpoint : c = '.'
    · subst hpoint
      rw [if_pos rfl] at h
      have ht : t = t.takeWhile isDigit ++ t.dropWhile isDigit :=
        List.takeWhile_append_dropWhile.symm
      have hds := allDigits_takeWhile t
      unfold skipFraction at h
      generalize t.dropWhile isDigit = rest at *
      generalize t.takeWhile isDigit = ds at *
      subst ht
      dsimp only at h
      split at h
      · cases h
      · rename_i hempty
        have hfraction := IsFraction.digits (fun hnil => hempty (List.isEmpty_iff.2 hnil)) hds
        split at h
        · rename_i d u
          split at h
          · rename_i hd
            obtain ⟨e, he, hexponent⟩ := exponent_of_skipExponent h hd
            exact ⟨'.' :: ds, e, by rw [he]; rfl, hfraction, hexponent⟩
          · cases h
            exact ⟨'.' :: ds, [], by simp, hfraction, .none⟩
        · cases h
          exact ⟨'.' :: ds, [], by simp, hfraction, .none⟩
    · rw [if_neg hpoint] at h
      by_cases hc : c = 'e' ∨ c = 'E'
      · rw [if_pos hc] at h
        obtain ⟨e, he, hexponent⟩ := exponent_of_skipExponent h hc
        exact ⟨[], e, he, .none, hexponent⟩
      · rw [if_neg hc] at h
        cases h
        exact ⟨[], [], rfl, .none, .none⟩

theorem parts_of_skipUnsigned (h : skipUnsigned s = .ok r) : ∃ w f e, s = w ++ (f ++ (e ++ r)) ∧
    IsWhole w ∧ IsFraction f ∧ IsExponent e := by
  cases s with
  | nil => exact nomatch h
  | cons c t =>
    by_cases hzero : c = '0'
    · subst hzero
      have ht : ∀ d ∈ t.head?, isDigit d = false := by
        intro d hd
        cases t with
        | nil => exact nomatch hd
        | cons e t =>
          cases hd
          refine Bool.eq_false_iff.2 fun hd => ?_
          simp [skipUnsigned, hd] at h
      rw [skipUnsigned_zero ht] at h
      obtain ⟨f, e, rfl, hf, he⟩ := parts_of_skipTail h
      exact ⟨['0'], f, e, rfl, .zero, hf, he⟩
    · by_cases hc : isDigit c = true
      · rw [skipUnsigned_digit hzero hc] at h
        obtain ⟨f, e, ht, hf, he⟩ := parts_of_skipTail h
        refine ⟨c :: t.takeWhile isDigit, f, e, ?_, .digits hzero hc (allDigits_takeWhile t), hf, he⟩
        rw [← ht, List.cons_append, List.takeWhile_append_dropWhile]
      · simp [skipUnsigned, hzero, hc] at h

theorem isNumber_of_skipNumber (h : skipNumber s = .ok r) : ∃ d, s = d ++ r ∧ IsNumber d := by
  unfold skipNumber at h
  split at h
  · obtain ⟨w, f, e, rfl, hw, hf, he⟩ := parts_of_skipUnsigned h
    exact ⟨_, by simp, .parts (List.mem_cons_of_mem _ List.mem_cons_self) hw hf he⟩
  · obtain ⟨w, f, e, rfl, hw, hf, he⟩ := parts_of_skipUnsigned h
    exact ⟨_, by simp, .parts List.mem_cons_self hw hf he⟩

end Numbers

/-- What stands between the quotes of a string. A code need not be the code of a character. -/
inductive IsBody : List Char → Prop
  | nil : IsBody []
  | plain {c : Char} {cs : List Char} (hquote : c ≠ '"') (hescape : c ≠ '\\')
      (hcontrol : 0x20 ≤ c.toNat) (hcs : IsBody cs) : IsBody (c :: cs)
  | short {c : Char} {cs : List Char} (hc : c ∈ ['"', '\\', '/', 'b', 'f', 'n', 'r', 't'])
      (hcs : IsBody cs) : IsBody ('\\' :: c :: cs)
  | code {a b c d : Char} {cs : List Char} (hcode : ∀ x ∈ [a, b, c, d], (hexValue? x).isSome = true)
      (hcs : IsBody cs) : IsBody ('\\' :: 'u' :: a :: b :: c :: d :: cs)

theorem isBody_of_plain {cs : List Char} (h : ∀ c ∈ cs, c ≠ '"' ∧ c ≠ '\\' ∧ 0x20 ≤ c.toNat) :
    IsBody cs := by
  induction cs with
  | nil => exact .nil
  | cons c cs ih =>
    obtain ⟨⟨hquote, hescape, hcontrol⟩, hcs⟩ := List.forall_mem_cons.1 h
    exact .plain hquote hescape hcontrol (ih hcs)

theorem shortEscape?_isSome {c : Char} :
    (shortEscape? c).isSome = true ↔ c ∈ ['"', '\\', '/', 'b', 'f', 'n', 'r', 't'] := by
  simp only [shortEscape?, List.mem_cons, List.not_mem_nil, or_false]
  by_cases hself : c = '"' ∨ c = '\\' ∨ c = '/'
  · rw [if_pos hself]
    simp only [Option.isSome_some, true_iff]
    rcases hself with h | h | h <;> simp [h]
  · rw [if_neg hself]
    simp only [not_or] at hself
    repeat' split
    all_goals simp_all

theorem hexCode?_isSome {a b c d : Char} :
    (∃ n, hexCode? a b c d = some n) ↔ ∀ x ∈ [a, b, c, d], (hexValue? x).isSome = true := by
  simp only [List.forall_mem_cons, List.not_mem_nil, false_imp_iff, implies_true, and_true]
  unfold hexCode?
  cases hexValue? a <;> cases hexValue? b <;> cases hexValue? c <;> cases hexValue? d <;> simp

theorem skipString_of_isBody {b : List Char} (h : IsBody b) (r : List Char) :
    passed (skipString (b ++ '"' :: r)) = .ok r := by
  induction h with
  | nil => exact skipString_eq_ok.2 ⟨'"', r, rfl, .inl ⟨rfl, rfl⟩⟩
  | plain hquote hescape hcontrol _ ih =>
    exact skipString_eq_ok.2 ⟨_, _, rfl, .inr (.inr ⟨hquote, hescape, hcontrol, ih⟩)⟩
  | @short c cs hc _ ih =>
    have hu : c ≠ 'u' := by
      rintro rfl
      simp at hc
    have hskip : passed (skipEscape (c :: (cs ++ '"' :: r))) = .ok (cs ++ '"' :: r) :=
      skipEscape_eq_ok.2 (.inr ⟨c, rfl, hu, shortEscape?_isSome.2 hc⟩)
    exact skipString_eq_ok.2 ⟨'\\', _, rfl, .inr (.inl ⟨rfl, _, hskip, ih⟩)⟩
  | @code a b c d cs hcode _ ih =>
    obtain ⟨n, hn⟩ := hexCode?_isSome.2 hcode
    have hskip : passed (skipEscape ('u' :: a :: b :: c :: d :: (cs ++ '"' :: r))) =
        .ok (cs ++ '"' :: r) :=
      skipEscape_eq_ok.2 (.inl ⟨_, n, rfl, readCode_eq_ok.2 ⟨a, b, c, d, rfl, hn⟩⟩)
    exact skipString_eq_ok.2 ⟨'\\', _, rfl, .inr (.inl ⟨rfl, _, hskip, ih⟩)⟩

/-- By induction on the length: an escape takes more than one character. -/
theorem isBody_of_skipString {s r : List Char} (h : passed (skipString s) = .ok r) :
    ∃ b, s = b ++ '"' :: r ∧ IsBody b := by
  induction hn : s.length using Nat.strongRecOn generalizing s with
  | _ n ih =>
    obtain ⟨c, t, rfl, ⟨rfl, rfl⟩ | ⟨rfl, u, hu, hrest⟩ | ⟨hquote, hescape, hcontrol, hrest⟩⟩ :=
      skipString_eq_ok.1 h
    · exact ⟨[], rfl, .nil⟩
    · have hlen := length_lt_of_passed hu
      obtain ⟨b, rfl, hb⟩ := ih u.length (by simp only [List.length_cons] at hn; omega) hrest rfl
      rcases skipEscape_eq_ok.1 hu with ⟨v, n, rfl, hcode⟩ | ⟨c, rfl, -, hc⟩
      · obtain ⟨x, y, z, w, rfl, hvalue⟩ := readCode_eq_ok.1 hcode
        exact ⟨_, rfl, .code (hexCode?_isSome.1 ⟨n, hvalue⟩) hb⟩
      · exact ⟨_, rfl, .short (shortEscape?_isSome.1 hc) hb⟩
    · obtain ⟨b, rfl, hb⟩ := ih t.length (by simp [← hn]) hrest rfl
      exact ⟨c :: b, rfl, .plain hquote hescape hcontrol hb⟩

end DesignCompiler.Json
