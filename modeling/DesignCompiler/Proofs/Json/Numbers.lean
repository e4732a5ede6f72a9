import DesignCompiler.Json.Scalar
import Mathlib.Data.List.TakeWhile

set_option autoImplicit false

namespace DesignCompiler.Json

/-- Whether no number goes on into `r`. -/
def Stops (r : List Char) : Prop := ∀ c ∈ r.head?, isDigit c = false ∧ c ≠ '.' ∧ c ≠ 'e' ∧ c ≠ 'E'

theorem stops_nil : Stops [] := by simp [Stops]

theorem stops_cons {c : Char} {r : List Char} :
    Stops (c :: r) ↔ isDigit c = false ∧ c ≠ '.' ∧ c ≠ 'e' ∧ c ≠ 'E' := by simp [Stops]

section Digits
variable {ds rest : List Char}

theorem takeWhile_digits (hd : ∀ c ∈ ds, isDigit c = true)
    (hr : ∀ c ∈ rest.head?, isDigit c = false) : (ds ++ rest).takeWhile isDigit = ds := by
  rw [List.takeWhile_append_of_pos hd]
  cases rest with
  | nil => simp
  | cons c rest => simp [hr c rfl]

theorem dropWhile_digits (hd : ∀ c ∈ ds, isDigit c = true)
    (hr : ∀ c ∈ rest.head?, isDigit c = false) : (ds ++ rest).dropWhile isDigit = rest := by
  rw [List.dropWhile_append_of_pos hd]
  cases rest with
  | nil => rfl
  | cons c rest => simp [hr c rfl]

theorem isDigit_of_mem_takeWhile {s : List Char} {c : Char} (h : c ∈ s.takeWhile isDigit) :
    isDigit c = true := List.mem_takeWhile_imp h

theorem head_dropWhile_digits (s : List Char) :
    ∀ c ∈ (s.dropWhile isDigit).head?, isDigit c = false := by
  intro c hc
  have h := List.head?_dropWhile_not isDigit s
  cases hs : (s.dropWhile isDigit).head? with
  | none =>
    rw [hs] at hc
    exact nomatch hc
  | some d =>
    rw [hs] at hc h
    cases hc
    exact Bool.eq_false_iff.2 (by simpa using h)

theorem Stops.digit {r : List Char} (h : Stops r) : ∀ c ∈ r.head?, isDigit c = false :=
  fun c hc => (h c hc).1

end Digits

def valueOf {α β : Type} (x : Except Issue (α × β)) : Option α := x.toOption.map Prod.fst

/-- `p` is passed over whatever stops it. -/
def Skips (skip : List Char → Except Issue (List Char)) (p : List Char) : Prop :=
  ∀ r, Stops r → skip (p ++ r) = .ok r

def Reads (read : List Char → Except Issue (Number × List Char)) (p : List Char) : Prop :=
  ∃ v, ∀ r, Stops r → valueOf (read (p ++ r)) = v

theorem Skips.after {skip skip' : List Char → Except Issue (List Char)} {p : List Char}
    (hp : Skips skip' p) (pre : List Char)
    (h : ∀ r, Stops r → skip (pre ++ (p ++ r)) = skip' (p ++ r)) : Skips skip (pre ++ p) := by
  intro r hr
  rw [List.append_assoc, h r hr]
  exact hp r hr

theorem Reads.after {read read' : List Char → Except Issue (Number × List Char)}
    {p : List Char} (hp : Reads read' p) (pre : List Char)
    (h : ∀ r, Stops r → read (pre ++ (p ++ r)) = read' (p ++ r)) : Reads read (pre ++ p) := by
  obtain ⟨v, hv⟩ := hp
  refine ⟨v, fun r hr => ?_⟩
  rw [List.append_assoc, h r hr]
  exact hv r hr

theorem valueOf_realOfParts (negative : Bool) (significand : Nat) (exponent : Int)
    (rest : List Char) : valueOf (realOfParts negative significand exponent rest) =
      (scaleByTen (.ofNat significand) exponent).map fun x => .real (signed negative x) := by
  unfold realOfParts
  cases scaleByTen (.ofNat significand) exponent <;> rfl

theorem readExponentDigits_append (exponent : Nat) (ds : List Char)
    (hd : ∀ c ∈ ds, isDigit c = true) :
    (∃ n, ∀ r, Stops r → readExponentDigits exponent (ds ++ r) = .ok (n, r)) ∨
      ∃ cs, ∀ r, readExponentDigits exponent (ds ++ r) = .error (cs ++ r) := by
  induction ds generalizing exponent with
  | nil =>
    refine .inl ⟨exponent, fun r hr => ?_⟩
    cases r with
    | nil => rfl
    | cons c r => simp [readExponentDigits, (stops_cons.1 hr).1]
  | cons d ds ih =>
    obtain ⟨hd, hds⟩ := List.forall_mem_cons.1 hd
    by_cases hle : exponent * 10 + digitValue d ≤ greatestExponent
    · rcases ih (exponent * 10 + digitValue d) hds with ⟨n, h⟩ | ⟨cs, h⟩
      · refine .inl ⟨n, fun r hr => ?_⟩
        rw [← h r hr]
        simp [readExponentDigits, hd, hle]
      · refine .inr ⟨cs, fun r => ?_⟩
        rw [← h r]
        simp [readExponentDigits, hd, hle]
    · exact .inr ⟨ds, fun r => by simp [readExponentDigits, hd, hle]⟩

section Sign
variable {sign : List Char} {c : Char}

theorem ne_sign_of_isDigit (hc : isDigit c = true) : c ≠ '+' ∧ c ≠ '-' := by
  constructor
  · rintro rfl
    exact nomatch hc
  · rintro rfl
    exact nomatch hc

theorem skipExponent_signed (hs : sign ∈ [[], ['+'], ['-']]) (hc : isDigit c = true)
    (t : List Char) : skipExponent (sign ++ c :: t) = .ok (t.dropWhile isDigit) := by
  obtain ⟨hplus, hminus⟩ := ne_sign_of_isDigit hc
  simp only [List.mem_cons, List.not_mem_nil, or_false] at hs
  rcases hs with rfl | rfl | rfl
  · simp [skipExponent, hplus, hminus, hc]
  · simp [skipExponent, hc]
  · simp [skipExponent, hc]

theorem exists_of_skipExponent {s r : List Char} (h : skipExponent s = .ok r) :
    ∃ sign c t, s = sign ++ c :: t ∧ sign ∈ [[], ['+'], ['-']] ∧ isDigit c = true ∧
      r = t.dropWhile isDigit := by
  unfold skipExponent at h
  dsimp only at h
  split at h
  · cases h
  · rename_i c t he
    split at h
    · rename_i hc
      simp only [Except.ok.injEq] at h
      subst h
      split at he
      · subst he
        exact ⟨['+'], c, t, rfl, by simp, hc, rfl⟩
      · subst he
        exact ⟨['-'], c, t, rfl, by simp, hc, rfl⟩
      · subst he
        exact ⟨[], c, t, rfl, by simp, hc, rfl⟩
    · cases h

theorem readExponent_signed (hs : sign ∈ [[], ['+'], ['-']]) (hc : isDigit c = true)
    (negative : Bool) (significand : Nat) (start : Int) (t : List Char) :
    readExponent negative significand start (sign ++ c :: t) =
      match readExponentDigits (digitValue c) t with
      | .ok (n, rest) =>
        realOfParts negative significand (if sign = ['-'] then start - n else start + n) rest
      | .error rest =>
        if significand ≠ 0 ∧ sign ≠ ['-'] then .error (Problem.numberOutOfRange.before rest)
        else .ok (.real (.zero negative), rest.dropWhile isDigit) := by
  obtain ⟨hplus, hminus⟩ := ne_sign_of_isDigit hc
  simp only [List.mem_cons, List.not_mem_nil, or_false] at hs
  rcases hs with rfl | rfl | rfl
  · cases h : readExponentDigits (digitValue c) t <;> simp [readExponent, hplus, hminus, hc, h]
  · cases h : readExponentDigits (digitValue c) t <;> simp [readExponent, hc, h]
  · cases h : readExponentDigits (digitValue c) t <;> simp [readExponent, hc, h]

end Sign

theorem exponent_local {s r : List Char} (h : skipExponent s = .ok r) : ∃ p, s = p ++ r ∧
    Skips skipExponent p ∧ ∀ negative significand start,
      Reads (readExponent negative significand start) p := by
  obtain ⟨sign, c, t, rfl, hs, hc, rfl⟩ := exists_of_skipExponent h
  have hd : ∀ d ∈ t.takeWhile isDigit, isDigit d = true := fun d hd => isDigit_of_mem_takeWhile hd
  have happend (r : List Char) : sign ++ c :: t.takeWhile isDigit ++ r =
      sign ++ c :: (t.takeWhile isDigit ++ r) := by simp
  refine ⟨sign ++ c :: t.takeWhile isDigit, ?_, fun r hr => ?_,
    fun negative significand start => ?_⟩
  · rw [happend, List.takeWhile_append_dropWhile]
  · rw [happend, skipExponent_signed hs hc, dropWhile_digits hd hr.digit]
  · rcases readExponentDigits_append (digitValue c) _ hd with ⟨n, hn⟩ | ⟨cs, hcs⟩
    · let exponent := if sign = ['-'] then start - n else start + n
      refine ⟨(scaleByTen (.ofNat significand) exponent).map fun x => .real (signed negative x),
        fun r hr => ?_⟩
      rw [happend, readExponent_signed hs hc, hn r hr]
      exact valueOf_realOfParts _ _ _ _
    · by_cases hz : significand ≠ 0 ∧ sign ≠ ['-']
      · refine ⟨none, fun r _ => ?_⟩
        rw [happend, readExponent_signed hs hc, hcs r]
        simp only [if_pos hz]
        rfl
      · refine ⟨some (.real (.zero negative)), fun r _ => ?_⟩
        rw [happend, readExponent_signed hs hc, hcs r]
        simp only [if_neg hz]
        rfl

section Fraction
variable {ds u : List Char}

theorem skipFraction_append (hd : ∀ c ∈ ds, isDigit c = true) (hne : ds ≠ [])
    (hu : ∀ c ∈ u.head?, isDigit c = false) :
    skipFraction (ds ++ u) = match u with
      | c :: r => if c = 'e' ∨ c = 'E' then skipExponent r else .ok u
      | [] => .ok [] := by
  unfold skipFraction
  rw [takeWhile_digits hd hu, dropWhile_digits hd hu]
  simp only [List.isEmpty_iff, hne, ite_false]
  cases u <;> rfl

theorem readFraction_append (hd : ∀ c ∈ ds, isDigit c = true) (hne : ds ≠ []) (negative : Bool)
    (significand : Nat) (start : Int) :
    ∃ k n, ∀ u : List Char, (∀ c ∈ u.head?, isDigit c = false) →
      readFraction negative significand start (ds ++ u) = match u with
        | c :: r =>
          if c = 'e' ∨ c = 'E' then readExponent negative k n r else realOfParts negative k n u
        | [] => realOfParts negative k n u := by
  let absorbed := absorb significand ds
  refine ⟨absorbed.1, start - (ds.length - absorbed.2 : Nat), fun u hu => ?_⟩
  unfold readFraction
  rw [takeWhile_digits hd hu, dropWhile_digits hd hu]
  simp only [List.isEmpty_iff, hne, ite_false]
  cases u <;> rfl

theorem skips_fraction (hd : ∀ c ∈ ds, isDigit c = true) (hne : ds ≠ []) :
    Skips skipFraction ds := by
  intro r hr
  rw [skipFraction_append hd hne hr.digit]
  cases r with
  | nil => rfl
  | cons c r =>
    obtain ⟨-, -, he, hE⟩ := stops_cons.1 hr
    simp [he, hE]

theorem reads_fraction (hd : ∀ c ∈ ds, isDigit c = true) (hne : ds ≠ []) (negative : Bool)
    (significand : Nat) (start : Int) : Reads (readFraction negative significand start) ds := by
  obtain ⟨k, n, hread⟩ := readFraction_append hd hne negative significand start
  refine ⟨(scaleByTen (.ofNat k) n).map fun x => .real (signed negative x), fun r hr => ?_⟩
  rw [hread r hr.digit]
  cases r with
  | nil => exact valueOf_realOfParts _ _ _ _
  | cons c r =>
    obtain ⟨-, -, he, hE⟩ := stops_cons.1 hr
    simp only [he, hE, or_self, ite_false]
    exact valueOf_realOfParts _ _ _ _

end Fraction

theorem fraction_local {s r : List Char} (h : skipFraction s = .ok r) : ∃ p, s = p ++ r ∧
    Skips skipFraction p ∧ ∀ negative significand start,
      Reads (readFraction negative significand start) p := by
  have hd : ∀ d ∈ s.takeWhile isDigit, isDigit d = true := fun d hd => isDigit_of_mem_takeWhile hd
  have hu := head_dropWhile_digits s
  obtain ⟨ds, u, rfl, hds, hrest⟩ : ∃ ds u, s = ds ++ u ∧ s.takeWhile isDigit = ds ∧
      s.dropWhile isDigit = u := ⟨_, _, List.takeWhile_append_dropWhile.symm, rfl, rfl⟩
  rw [hds] at hd
  rw [hrest] at hu
  have hne : ds ≠ [] := by
    rintro rfl
    simp only [skipFraction, hds, List.isEmpty_nil, ite_true] at h
    exact nomatch h
  rw [skipFraction_append hd hne hu] at h
  cases u with
  | nil =>
    cases h
    exact ⟨ds, rfl, skips_fraction hd hne, reads_fraction hd hne⟩
  | cons c t =>
    by_cases hc : c = 'e' ∨ c = 'E'
    · simp only [if_pos hc] at h
      obtain ⟨p, rfl, hskip, hread⟩ := exponent_local h
      have hdigit (r : List Char) : ∀ d ∈ (c :: (p ++ r)).head?, isDigit d = false := by
        rintro d ⟨⟩
        exact hu c rfl
      refine ⟨ds ++ [c] ++ p, by simp, ?_, fun negative significand start => ?_⟩
      · apply hskip.after
        intro r _
        rw [List.append_assoc, List.singleton_append, skipFraction_append hd hne (hdigit r)]
        simp only [if_pos hc]
      · obtain ⟨k, n, hfraction⟩ := readFraction_append hd hne negative significand start
        apply (hread negative k n).after
        intro r _
        rw [List.append_assoc, List.singleton_append, hfraction _ (hdigit r)]
        simp only [if_pos hc]
    · simp only [if_neg hc] at h
      cases h
      exact ⟨ds, rfl, skips_fraction hd hne, reads_fraction hd hne⟩

theorem skips_tail : Skips skipTail [] := by
  intro r hr
  cases r with
  | nil => rfl
  | cons c r =>
    obtain ⟨-, hp, he, hE⟩ := stops_cons.1 hr
    simp [skipTail, hp, he, hE]

theorem reads_tail (negative : Bool) (significand unused : Nat) :
    Reads (readTail negative significand unused) [] := by
  by_cases hz : unused = 0
  · refine ⟨some (wholeOfParts negative significand), fun r hr => ?_⟩
    cases r with
    | nil => simp [readTail, hz, valueOf, Except.toOption]
    | cons c r =>
      obtain ⟨-, hp, he, hE⟩ := stops_cons.1 hr
      simp [readTail, hp, he, hE, hz, valueOf, Except.toOption]
  · refine ⟨(scaleByTen (.ofNat significand) unused).map fun x => .real (signed negative x),
      fun r hr => ?_⟩
    rw [← valueOf_realOfParts negative significand unused r]
    cases r with
    | nil => simp [readTail, hz]
    | cons c r =>
      obtain ⟨-, hp, he, hE⟩ := stops_cons.1 hr
      simp [readTail, hp, he, hE, hz]

theorem tail_local {s r : List Char} (h : skipTail s = .ok r) : ∃ p, s = p ++ r ∧
    Skips skipTail p ∧ ∀ negative significand unused,
      Reads (readTail negative significand unused) p := by
  cases s with
  | nil =>
    cases h
    exact ⟨[], rfl, skips_tail, reads_tail⟩
  | cons c t =>
    by_cases hp : c = '.'
    · simp only [skipTail, if_pos hp] at h
      obtain ⟨p, rfl, hskip, hread⟩ := fraction_local h
      refine ⟨[c] ++ p, rfl, hskip.after [c] fun r _ => ?_,
        fun negative significand unused =>
          (hread negative significand unused).after [c] fun r _ => ?_⟩
      · rw [List.singleton_append, skipTail, if_pos hp]
      · rw [List.singleton_append, readTail, if_pos hp]
    · by_cases he : c = 'e' ∨ c = 'E'
      · simp only [skipTail, if_neg hp, if_pos he] at h
        obtain ⟨p, rfl, hskip, hread⟩ := exponent_local h
        refine ⟨[c] ++ p, rfl, hskip.after [c] fun r _ => ?_,
          fun negative significand unused =>
          (hread negative significand unused).after [c] fun r _ => ?_⟩
        · rw [List.singleton_append, skipTail, if_neg hp, if_pos he]
        · rw [List.singleton_append, readTail, if_neg hp, if_pos he]
      · simp only [skipTail, if_neg hp, if_neg he] at h
        cases h
        exact ⟨[], rfl, skips_tail, reads_tail⟩

theorem head_append_digit {p r r' : List Char} (h : ∀ c ∈ (p ++ r).head?, isDigit c = false)
    (hr : Stops r') : ∀ c ∈ (p ++ r').head?, isDigit c = false := by
  cases p with
  | nil => exact hr.digit
  | cons c p => exact h

section Unsigned
variable {c : Char} {t : List Char}

theorem skipUnsigned_zero (ht : ∀ d ∈ t.head?, isDigit d = false) :
    skipUnsigned ('0' :: t) = skipTail t := by
  cases t with
  | nil => rfl
  | cons d t => simp [skipUnsigned, ht d rfl]

theorem readUnsigned_zero (ht : ∀ d ∈ t.head?, isDigit d = false) (negative : Bool) :
    readUnsigned negative ('0' :: t) = readTail negative 0 0 t := by
  cases t with
  | nil => rfl
  | cons d t => simp [readUnsigned, ht d rfl]

theorem skipUnsigned_digit (h0 : c ≠ '0') (hc : isDigit c = true) :
    skipUnsigned (c :: t) = skipTail (t.dropWhile isDigit) := by
  simp only [skipUnsigned, if_neg h0, if_pos hc]

theorem readUnsigned_digit (h0 : c ≠ '0') (hc : isDigit c = true) (negative : Bool) :
    readUnsigned negative (c :: t) =
      readTail negative (absorb 0 (c :: t.takeWhile isDigit)).1
        (absorb 0 (c :: t.takeWhile isDigit)).2 (t.dropWhile isDigit) := by
  simp only [readUnsigned, if_neg h0, if_pos hc, List.takeWhile_cons_of_pos hc,
    List.dropWhile_cons_of_pos hc]

end Unsigned

theorem unsigned_local {s r : List Char} (h : skipUnsigned s = .ok r) : ∃ p, s = p ++ r ∧
    p ≠ [] ∧ Skips skipUnsigned p ∧ ∀ negative, Reads (readUnsigned negative) p := by
  cases s with
  | nil => exact nomatch h
  | cons c t =>
    by_cases h0 : c = '0'
    · subst h0
      have ht : ∀ d ∈ t.head?, isDigit d = false := by
        rintro d hd
        cases t with
        | nil => exact nomatch hd
        | cons e t =>
          cases hd
          refine Bool.eq_false_iff.2 fun hd => ?_
          simp [skipUnsigned, hd] at h
      rw [skipUnsigned_zero ht] at h
      obtain ⟨p, rfl, hskip, hread⟩ := tail_local h
      refine ⟨['0'] ++ p, rfl, List.cons_ne_nil _ _, ?_, fun negative => ?_⟩
      · apply hskip.after
        intro r hr
        have hr' := head_append_digit ht hr
        exact skipUnsigned_zero hr'
      · apply (hread negative 0 0).after
        intro r hr
        have hr' := head_append_digit ht hr
        exact readUnsigned_zero hr' negative
    · by_cases hc : isDigit c = true
      · rw [skipUnsigned_digit h0 hc] at h
        have hu := head_dropWhile_digits t
        obtain ⟨p, hp, hskip, hread⟩ := tail_local h
        rw [hp] at hu
        have hd : ∀ d ∈ t.takeWhile isDigit, isDigit d = true :=
          fun d hd => isDigit_of_mem_takeWhile hd
        refine ⟨c :: t.takeWhile isDigit ++ p, ?_, List.cons_ne_nil _ _, ?_, fun negative => ?_⟩
        · rw [List.append_assoc, ← hp, List.cons_append, List.takeWhile_append_dropWhile]
        · apply hskip.after
          intro r hr
          rw [List.cons_append, skipUnsigned_digit h0 hc,
            dropWhile_digits hd (head_append_digit hu hr)]
        · apply (hread negative (absorb 0 (c :: t.takeWhile isDigit)).1
            (absorb 0 (c :: t.takeWhile isDigit)).2).after
          intro r hr
          have hr' := head_append_digit hu hr
          rw [List.cons_append, readUnsigned_digit h0 hc, takeWhile_digits hd hr',
            dropWhile_digits hd hr']
      · simp [skipUnsigned, h0, hc] at h

theorem number_local {s r : List Char} (h : skipNumber s = .ok r) : ∃ p, s = p ++ r ∧
    p ≠ [] ∧ Skips skipNumber p ∧ Reads readNumber p := by
  cases s with
  | nil => exact nomatch h
  | cons c t =>
    by_cases hc : c = '-'
    · subst hc
      obtain ⟨p, rfl, -, hskip, hread⟩ := unsigned_local h
      exact ⟨['-'] ++ p, rfl, List.cons_ne_nil _ _, hskip.after _ fun _ _ => rfl,
        (hread true).after _ fun _ _ => rfl⟩
    · have hskipNumber (u : List Char) : skipNumber (c :: u) = skipUnsigned (c :: u) := by
        simp [skipNumber, hc]
      have hreadNumber (u : List Char) : readNumber (c :: u) = readUnsigned false (c :: u) := by
        simp [readNumber, hc]
      rw [hskipNumber] at h
      obtain ⟨p, hp, hne, hskip, hread⟩ := unsigned_local h
      obtain ⟨p, rfl⟩ : ∃ q, p = c :: q := by
        cases p with
        | nil => exact absurd rfl hne
        | cons e q =>
          cases (List.cons.inj hp).1
          exact ⟨q, rfl⟩
      exact ⟨c :: p, hp, hne, hskip.after [] fun r _ => hskipNumber (p ++ r),
        (hread false).after [] fun r _ => hreadNumber (p ++ r)⟩

end DesignCompiler.Json
