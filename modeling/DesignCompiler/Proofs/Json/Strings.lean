import DesignCompiler.Json.Writer
import DesignCompiler.Proofs.Json.Numbers
import DesignCompiler.Proofs.Json.Reading

set_option autoImplicit false

namespace DesignCompiler.Json

theorem readWord_eq_ok {word s r : List Char} : readWord word s = .ok r ↔ s = word ++ r := by
  induction word generalizing s with
  | nil => simp [readWord]
  | cons w word ih =>
    cases s with
    | nil => simp [readWord]
    | cons c s =>
      by_cases h : w = c
      · simp [readWord, h, ih]
      · simp [readWord, h, Ne.symm h]

/-- What remains, without the proof that it is shorter. -/
def passed {s : List Char} (x : Except Issue (Rest s)) : Except Issue (List Char) :=
  Subtype.val <$> x

theorem length_lt_of_passed {s r : List Char} {x : Except Issue (Rest s)} (h : passed x = .ok r) :
    r.length < s.length := by
  obtain ⟨y, -, rfl⟩ := map_eq_ok.1 h
  exact y.2

def given {α : Type} {s : List Char} (x : Except Issue (α × Rest s)) :
    Except Issue (α × List Char) := (fun y => (y.1, y.2.1)) <$> x

theorem valueOf_eq_some {α : Type} {s : List Char} {x : Except Issue (α × Rest s)} {a : α} :
    valueOf x = some a ↔ ∃ r, given x = .ok (a, r) := by
  cases x <;> simp [valueOf, given, Except.toOption]

theorem readCode_eq_ok {s r : List Char} {n : Nat} : given (readCode s) = .ok (n, r) ↔
    ∃ a b c d, s = a :: b :: c :: d :: r ∧ hexCode? a b c d = some n := by
  rcases s with _ | ⟨a, _ | ⟨b, _ | ⟨c, _ | ⟨d, t⟩⟩⟩⟩
  · simp [readCode, given]
  · simp [readCode, given]
  · simp [readCode, given]
  · simp [readCode, given]
  · have hcode : given (readCode (a :: b :: c :: d :: t)) = .ok (n, r) ↔
        hexCode? a b c d = some n ∧ t = r := by
      cases h : hexCode? a b c d <;> simp [readCode, given, h]
    rw [hcode]
    constructor
    · rintro ⟨h, rfl⟩
      exact ⟨a, b, c, d, rfl, h⟩
    · rintro ⟨_, _, _, _, ⟨⟩, h⟩
      exact ⟨h, rfl⟩

theorem readLowSurrogate_eq_ok {high : Nat} {s r : List Char} {x : Char} :
    given (readLowSurrogate high s) = .ok (x, r) ↔ ∃ t low, s = '\\' :: 'u' :: t ∧
      given (readCode t) = .ok (low, r) ∧ isLowSurrogate low = true ∧
        Char.ofNat (0x10000 + (high - 0xD800) * 0x400 + (low - 0xDC00)) = x := by
  rcases s with _ | ⟨c, _ | ⟨d, t⟩⟩
  · simp [readLowSurrogate, given]
  · by_cases hc : c = '\\' <;> simp [readLowSurrogate, hc, given]
  · by_cases hc : c = '\\'
    · by_cases hd : d = 'u'
      · subst hc hd
        cases hx : readCode t with
        | error i => simp [readLowSurrogate, given, hx]
        | ok y =>
          obtain ⟨low, r₁, h⟩ := y
          cases hl : isLowSurrogate low <;> simp [readLowSurrogate, given, hx, hl, and_comm]
      · simp [readLowSurrogate, hc, hd, given]
    · simp [readLowSurrogate, hc, given]

theorem readCodePoint_eq_ok {s r : List Char} {x : Char} :
    given (readCodePoint s) = .ok (x, r) ↔ ∃ n t, given (readCode s) = .ok (n, t) ∧
      isLowSurrogate n = false ∧
        ((isHighSurrogate n = true ∧ given (readLowSurrogate n t) = .ok (x, r)) ∨
          (isHighSurrogate n = false ∧ Char.ofNat n = x ∧ t = r)) := by
  cases hx : readCode s with
  | error i => simp [readCodePoint, given, hx]
  | ok y =>
    obtain ⟨n, t, h⟩ := y
    cases hl : isLowSurrogate n with
    | true => simp [readCodePoint, given, hx, hl]
    | false =>
      cases hh : isHighSurrogate n with
      | true =>
        cases hlow : readLowSurrogate n t <;> simp [readCodePoint, given, hx, hl, hh, hlow]
      | false =>
        simp [readCodePoint, given, hx, hl, hh]

theorem readEscape_eq_ok {s r : List Char} {x : Char} :
    given (readEscape s) = .ok (x, r) ↔
      (∃ t, s = 'u' :: t ∧ given (readCodePoint t) = .ok (x, r)) ∨
        ∃ c, s = c :: r ∧ c ≠ 'u' ∧ shortEscape? c = some x := by
  cases s with
  | nil => simp [readEscape, given]
  | cons c t =>
    by_cases hc : c = 'u'
    · subst hc
      cases h : readCodePoint t <;> simp [readEscape, given, h]
    · cases h : shortEscape? c <;> simp [readEscape, given, hc, h, and_comm]

theorem skipEscape_eq_ok {s r : List Char} : passed (skipEscape s) = .ok r ↔
    (∃ t n, s = 'u' :: t ∧ given (readCode t) = .ok (n, r)) ∨
      ∃ c, s = c :: r ∧ c ≠ 'u' ∧ (shortEscape? c).isSome = true := by
  cases s with
  | nil => simp [skipEscape, passed]
  | cons c t =>
    by_cases hc : c = 'u'
    · subst hc
      cases h : readCode t <;> simp [skipEscape, passed, given, h]
    · cases h : shortEscape? c <;> simp [skipEscape, passed, hc, h]

theorem skipString_eq_ok {s r : List Char} : passed (skipString s) = .ok r ↔ ∃ c t, s = c :: t ∧
    ((c = '"' ∧ t = r) ∨
      (c = '\\' ∧ ∃ u, passed (skipEscape t) = .ok u ∧ passed (skipString u) = .ok r) ∨
      (c ≠ '"' ∧ c ≠ '\\' ∧ 0x20 ≤ c.toNat ∧ passed (skipString t) = .ok r)) := by
  rw [skipString.eq_def]
  cases s with
  | nil => simp [passed]
  | cons c t =>
    by_cases hq : c = '"'
    · subst hq
      simp [passed]
    · by_cases hb : c = '\\'
      · subst hb
        cases he : skipEscape t with
        | error i => simp [passed, he]
        | ok y =>
          obtain ⟨u, hu⟩ := y
          cases h : skipString u <;> simp [passed, he, h]
      · by_cases hl : c.toNat < 0x20
        · simp [passed, hq, hb, hl, Nat.not_le.2 hl]
        · have hle : 0x20 ≤ c.toNat := Nat.not_lt.1 hl
          cases h : skipString t <;> simp [passed, hq, hb, hl, hle, h]

theorem readString_eq_ok {s xs r : List Char} : given (readString s) = .ok (xs, r) ↔
    ∃ c t, s = c :: t ∧
      ((c = '"' ∧ [] = xs ∧ t = r) ∨
        (c = '\\' ∧ ∃ x ys u, given (readEscape t) = .ok (x, u) ∧
          x :: ys = xs ∧ given (readString u) = .ok (ys, r)) ∨
        (c ≠ '"' ∧ c ≠ '\\' ∧ 0x20 ≤ c.toNat ∧ ∃ ys, c :: ys = xs ∧
          given (readString t) = .ok (ys, r))) := by
  rw [readString.eq_def]
  cases s with
  | nil => simp [given]
  | cons c t =>
    by_cases hq : c = '"'
    · subst hq
      simp [given]
    · by_cases hb : c = '\\'
      · subst hb
        cases he : readEscape t with
        | error i => simp [given, he]
        | ok y =>
          obtain ⟨x, u, hu⟩ := y
          cases h : readString u <;> simp [given, he, h]
      · by_cases hl : c.toNat < 0x20
        · simp [given, hq, hb, hl, Nat.not_le.2 hl]
        · have hle : 0x20 ≤ c.toNat := Nat.not_lt.1 hl
          cases h : readString t <;> simp [given, hq, hb, hl, hle, h]

theorem escape_local {s r : List Char} (h : passed (skipEscape s) = .ok r) :
    ∃ p, s = p ++ r ∧ p ≠ [] ∧ ∀ r', passed (skipEscape (p ++ r')) = .ok r' := by
  rcases skipEscape_eq_ok.1 h with ⟨t, n, rfl, ht⟩ | ⟨c, rfl, hc, hs⟩
  · obtain ⟨a, b, c, d, rfl, hn⟩ := readCode_eq_ok.1 ht
    refine ⟨['u', a, b, c, d], rfl, List.cons_ne_nil _ _, fun r' => ?_⟩
    exact skipEscape_eq_ok.2 (.inl ⟨_, n, rfl, readCode_eq_ok.2 ⟨a, b, c, d, rfl, hn⟩⟩)
  · refine ⟨[c], rfl, List.cons_ne_nil _ _, fun r' => ?_⟩
    exact skipEscape_eq_ok.2 (.inr ⟨c, rfl, hc, hs⟩)

theorem skipString_local {s r : List Char} (h : passed (skipString s) = .ok r) :
    ∃ p, s = p ++ r ∧ p ≠ [] ∧ ∀ r', passed (skipString (p ++ r')) = .ok r' := by
  induction hn : s.length using Nat.strongRecOn generalizing s with
  | _ n ih =>
    obtain ⟨c, t, rfl, ⟨rfl, rfl⟩ | ⟨rfl, u, hu, hrest⟩ | ⟨hq, hb, hl, hrest⟩⟩ :=
      skipString_eq_ok.1 h
    · refine ⟨['"'], rfl, List.cons_ne_nil _ _, fun r' => ?_⟩
      exact skipString_eq_ok.2 ⟨'"', r', rfl, .inl ⟨rfl, rfl⟩⟩
    · obtain ⟨p, rfl, -, hp⟩ := escape_local hu
      have hlen : u.length < n := by
        simp only [List.length_cons, List.length_append] at hn
        omega
      obtain ⟨q, rfl, -, hq⟩ := ih _ hlen hrest rfl
      refine ⟨'\\' :: (p ++ q), by simp, List.cons_ne_nil _ _, fun r' => ?_⟩
      refine skipString_eq_ok.2 ⟨'\\', p ++ q ++ r', rfl, .inr (.inl ⟨rfl, q ++ r', ?_, hq r'⟩)⟩
      rw [List.append_assoc]
      exact hp _
    · obtain ⟨p, rfl, -, hp⟩ := ih t.length (by simp [← hn]) hrest rfl
      refine ⟨c :: p, rfl, List.cons_ne_nil _ _, fun r' => ?_⟩
      exact skipString_eq_ok.2 ⟨c, _, rfl, .inr (.inr ⟨hq, hb, hl, hp r'⟩)⟩

theorem readCodePoint_local {s r : List Char} {x : Char}
    (h : given (readCodePoint s) = .ok (x, r)) :
    ∃ p, s = p ++ r ∧ ∀ r', given (readCodePoint (p ++ r')) = .ok (x, r') := by
  obtain ⟨n, t, ht, hn, hpair⟩ := readCodePoint_eq_ok.1 h
  obtain ⟨a, b, c, d, rfl, hcode⟩ := readCode_eq_ok.1 ht
  have hread (u : List Char) : given (readCode (a :: b :: c :: d :: u)) = .ok (n, u) :=
    readCode_eq_ok.2 ⟨a, b, c, d, rfl, hcode⟩
  rcases hpair with ⟨hhigh, hlow⟩ | ⟨hhigh, rfl, rfl⟩
  · obtain ⟨u, low, rfl, hu, hl, rfl⟩ := readLowSurrogate_eq_ok.1 hlow
    obtain ⟨e, f, g, i, rfl, hcode'⟩ := readCode_eq_ok.1 hu
    refine ⟨[a, b, c, d, '\\', 'u', e, f, g, i], rfl, fun r' => ?_⟩
    refine readCodePoint_eq_ok.2 ⟨n, _, hread _, hn, .inl ⟨hhigh, ?_⟩⟩
    exact readLowSurrogate_eq_ok.2
      ⟨_, low, rfl, readCode_eq_ok.2 ⟨e, f, g, i, rfl, hcode'⟩, hl, rfl⟩
  · refine ⟨[a, b, c, d], rfl, fun r' => ?_⟩
    exact readCodePoint_eq_ok.2 ⟨n, _, hread _, hn, .inr ⟨hhigh, rfl, rfl⟩⟩

theorem readEscape_local {s r : List Char} {x : Char} (h : given (readEscape s) = .ok (x, r)) :
    ∃ p, s = p ++ r ∧ p ≠ [] ∧ ∀ r', given (readEscape (p ++ r')) = .ok (x, r') := by
  rcases readEscape_eq_ok.1 h with ⟨t, rfl, ht⟩ | ⟨c, rfl, hc, hs⟩
  · obtain ⟨p, rfl, hp⟩ := readCodePoint_local ht
    refine ⟨'u' :: p, rfl, List.cons_ne_nil _ _, fun r' => ?_⟩
    exact readEscape_eq_ok.2 (.inl ⟨_, rfl, hp r'⟩)
  · refine ⟨[c], rfl, List.cons_ne_nil _ _, fun r' => ?_⟩
    exact readEscape_eq_ok.2 (.inr ⟨c, rfl, hc, hs⟩)

theorem readString_local {s xs r : List Char} (h : given (readString s) = .ok (xs, r)) :
    ∃ p, s = p ++ r ∧ ∀ r', given (readString (p ++ r')) = .ok (xs, r') := by
  induction hn : s.length using Nat.strongRecOn generalizing s xs with
  | _ n ih =>
    obtain ⟨c, t, rfl, ⟨rfl, rfl, rfl⟩ | ⟨rfl, x, ys, u, hu, rfl, hrest⟩ |
      ⟨hq, hb, hl, ys, rfl, hrest⟩⟩ :=
      readString_eq_ok.1 h
    · refine ⟨['"'], rfl, fun r' => ?_⟩
      exact readString_eq_ok.2 ⟨'"', r', rfl, .inl ⟨rfl, rfl, rfl⟩⟩
    · obtain ⟨p, rfl, -, hp⟩ := readEscape_local hu
      have hlen : u.length < n := by
        simp only [List.length_cons, List.length_append] at hn
        omega
      obtain ⟨q, rfl, hq⟩ := ih _ hlen hrest rfl
      refine ⟨'\\' :: (p ++ q), by simp, fun r' => ?_⟩
      refine readString_eq_ok.2
        ⟨'\\', p ++ q ++ r', rfl, .inr (.inl ⟨rfl, x, ys, q ++ r', ?_, rfl, hq r'⟩)⟩
      rw [List.append_assoc]
      exact hp _
    · obtain ⟨p, rfl, hp⟩ := ih t.length (by simp [← hn]) hrest rfl
      refine ⟨c :: p, rfl, fun r' => ?_⟩
      exact readString_eq_ok.2 ⟨c, _, rfl, .inr (.inr ⟨hq, hb, hl, ys, rfl, hp r'⟩)⟩

theorem skipString_of_readEscape {s t r : List Char} {x : Char}
    (h : given (readEscape s) = .ok (x, t)) (ht : passed (skipString t) = .ok r) :
    passed (skipString ('\\' :: s)) = .ok r := by
  have hcode {u v : List Char} {n : Nat} (hu : given (readCode u) = .ok (n, v))
      (hv : passed (skipString v) = .ok r) : passed (skipString ('\\' :: 'u' :: u)) = .ok r :=
    skipString_eq_ok.2 ⟨'\\', _, rfl, .inr (.inl ⟨rfl, v, skipEscape_eq_ok.2 (.inl ⟨u, n, rfl, hu⟩),
      hv⟩)⟩
  rcases readEscape_eq_ok.1 h with ⟨u, rfl, hu⟩ | ⟨c, rfl, hc, hs⟩
  -- One escape is read for a pair, but two are passed over.
  · obtain ⟨n, v, hv, -, ⟨-, hlow⟩ | ⟨-, -, rfl⟩⟩ := readCodePoint_eq_ok.1 hu
    · obtain ⟨w, low, rfl, hw, -⟩ := readLowSurrogate_eq_ok.1 hlow
      exact hcode hv (hcode hw ht)
    · exact hcode hv ht
  · refine skipString_eq_ok.2 ⟨'\\', _, rfl, .inr (.inl ⟨rfl, t, ?_, ht⟩)⟩
    exact skipEscape_eq_ok.2 (.inr ⟨c, rfl, hc, by rw [hs]; rfl⟩)

theorem skipString_of_readString {s xs r : List Char} (h : given (readString s) = .ok (xs, r)) :
    passed (skipString s) = .ok r := by
  induction xs generalizing s with
  | nil =>
    obtain ⟨c, t, rfl, ⟨rfl, -, rfl⟩ | ⟨rfl, x, ys, u, hu, he, h⟩ | ⟨hq, hb, hl, ys, he, h⟩⟩ :=
      readString_eq_ok.1 h
    · exact skipString_eq_ok.2 ⟨'"', t, rfl, .inl ⟨rfl, rfl⟩⟩
    · exact nomatch he
    · exact nomatch he
  | cons x xs ih =>
    obtain ⟨c, t, rfl, ⟨rfl, he, rfl⟩ | ⟨rfl, x, ys, u, hu, he, h⟩ | ⟨hq, hb, hl, ys, he, h⟩⟩ :=
      readString_eq_ok.1 h
    · exact nomatch he
    · cases he
      exact skipString_of_readEscape hu (ih h)
    · cases he
      exact skipString_eq_ok.2 ⟨x, t, rfl, .inr (.inr ⟨hq, hb, hl, ih h⟩)⟩

theorem string_local {s r : List Char} (h : passed (skipString s) = .ok r) :
    ∃ p, s = p ++ r ∧ p ≠ [] ∧ ∀ r', passed (skipString (p ++ r')) = .ok r' ∧
      valueOf (readString (p ++ r')) = valueOf (readString s) := by
  obtain ⟨p, rfl, hne, hp⟩ := skipString_local h
  -- What is read in front of `u` is read in front of `v`; so is what cannot be read.
  have hread {u v xs : List Char} (hxs : valueOf (readString (p ++ u)) = some xs) :
      valueOf (readString (p ++ v)) = some xs := by
    obtain ⟨w, hw⟩ := valueOf_eq_some.1 hxs
    obtain rfl : u = w := Except.ok.inj ((hp u).symm.trans (skipString_of_readString hw))
    obtain ⟨q, hq, hlocal⟩ := readString_local hw
    obtain rfl : p = q := List.append_cancel_right hq
    exact valueOf_eq_some.2 ⟨v, hlocal v⟩
  exact ⟨p, rfl, hne, fun r' => ⟨hp r', Option.ext fun xs => ⟨hread, hread⟩⟩⟩

theorem hexCode?_control (n : Nat) (h : n < 0x20) :
    hexCode? '0' '0' (hexDigit (n / 16)) (hexDigit (n % 16)) = some n := by
  decide +revert

theorem readString_escapeChar {c : Char} {s xs r : List Char}
    (h : given (readString s) = .ok (xs, r)) :
    given (readString (escapeChar c ++ s)) = .ok (c :: xs, r) := by
  have hshort (d : Char) (hd : d ≠ 'u') (hs : shortEscape? d = some c) :
      given (readString ('\\' :: d :: s)) = .ok (c :: xs, r) :=
    readString_eq_ok.2 ⟨'\\', _, rfl,
      .inr (.inl ⟨rfl, c, xs, s, readEscape_eq_ok.2 (.inr ⟨d, rfl, hd, hs⟩), rfl, h⟩)⟩
  by_cases hc : c ∈ ['"', '\\', '\x08', '\t', '\n', '\x0c', '\r']
  · simp only [List.mem_cons, List.not_mem_nil, or_false] at hc
    rcases hc with rfl | rfl | rfl | rfl | rfl | rfl | rfl
    · exact hshort '"' (by decide) rfl
    · exact hshort '\\' (by decide) rfl
    · exact hshort 'b' (by decide) rfl
    · exact hshort 't' (by decide) rfl
    · exact hshort 'n' (by decide) rfl
    · exact hshort 'f' (by decide) rfl
    · exact hshort 'r' (by decide) rfl
  · simp only [List.mem_cons, List.not_mem_nil, or_false, not_or] at hc
    obtain ⟨hq, hb, h8, ht, hn, hf, hr⟩ := hc
    by_cases hl : c.toNat < 0x20
    · have hescape : escapeChar c =
          ['\\', 'u', '0', '0', hexDigit (c.toNat / 16), hexDigit (c.toNat % 16)] := by
        simp only [escapeChar, hq, hb, h8, ht, hn, hf, hr, hl, ite_true, ite_false]
      have hcode : given (readCode ('0' :: '0' :: hexDigit (c.toNat / 16) ::
          hexDigit (c.toNat % 16) :: s)) = .ok (c.toNat, s) :=
        readCode_eq_ok.2 ⟨_, _, _, _, rfl, hexCode?_control _ hl⟩
      have hlow : isLowSurrogate c.toNat = false := by
        simp only [isLowSurrogate, Bool.and_eq_false_iff, decide_eq_false_iff_not]
        omega
      have hhigh : isHighSurrogate c.toNat = false := by
        simp only [isHighSurrogate, Bool.and_eq_false_iff, decide_eq_false_iff_not]
        omega
      have hpoint := readCodePoint_eq_ok.2
        ⟨_, _, hcode, hlow, .inr ⟨hhigh, Char.ofNat_toNat c, rfl⟩⟩
      rw [hescape]
      exact readString_eq_ok.2 ⟨'\\', _, rfl,
        .inr (.inl ⟨rfl, c, xs, s, readEscape_eq_ok.2 (.inl ⟨_, rfl, hpoint⟩), rfl, h⟩)⟩
    · have hescape : escapeChar c = [c] := by
        simp only [escapeChar, hq, hb, h8, ht, hn, hf, hr, hl, ite_false]
      rw [hescape]
      exact readString_eq_ok.2 ⟨c, s, rfl, .inr (.inr ⟨hq, hb, Nat.not_lt.1 hl, xs, rfl, h⟩)⟩

theorem readString_writeString (cs r : List Char) :
    given (readString (cs.flatMap escapeChar ++ '"' :: r)) = .ok (cs, r) := by
  induction cs with
  | nil => exact readString_eq_ok.2 ⟨'"', r, rfl, .inl ⟨rfl, rfl, rfl⟩⟩
  | cons c cs ih =>
    rw [List.flatMap_cons, List.append_assoc]
    exact readString_escapeChar ih

end DesignCompiler.Json
