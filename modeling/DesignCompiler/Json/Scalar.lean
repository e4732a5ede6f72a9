import DesignCompiler.Json.Problem

set_option autoImplicit false

/-!
# Words, numbers and strings of a JSON text

Each is read in two ways. `read...` takes its value and refuses what has none: a number out of
range, half a surrogate pair. `skip...` only passes over it. Both agree on where it ends.
-/
namespace DesignCompiler.Json

/-- What remains of `s` once something of it is read. -/
abbrev Rest (s : List Char) := { r : List Char // r.length < s.length }

def isSpace (c : Char) : Bool := c = ' ' || c = '\n' || c = '\t' || c = '\r'

def skipSpace (s : List Char) : List Char := s.dropWhile isSpace

theorem length_dropWhile_le {α : Type} (p : α → Bool) (s : List α) :
    (s.dropWhile p).length ≤ s.length := by
  induction s with
  | nil => simp
  | cons c s ih =>
    rw [List.dropWhile_cons]
    split
    · exact Nat.le_succ_of_le ih
    · exact Nat.le_refl _

theorem length_skipSpace_le (s : List Char) : (skipSpace s).length ≤ s.length :=
  length_dropWhile_le isSpace s

theorem length_lt_of_skipSpace {s r : List Char} {c : Char} (h : skipSpace s = c :: r) :
    r.length < s.length := by
  have := length_skipSpace_le s
  rw [h, List.length_cons] at this
  omega

def readWord : (word s : List Char) → Except Issue (List Char)
  | [], s => .ok s
  | _ :: _, [] => .error (Problem.endInValue.before [])
  | w :: word, c :: s =>
    if w = c then readWord word s else .error (Problem.expectedWord.at (c :: s))

theorem length_le_of_readWord {word s r : List Char} (h : readWord word s = .ok r) :
    r.length ≤ s.length := by
  induction word generalizing s with
  | nil => simp_all [readWord]
  | cons w word ih =>
    cases s with
    | nil => simp [readWord] at h
    | cons c s =>
      simp only [readWord] at h
      split at h
      · exact Nat.le_succ_of_le (ih h)
      · simp at h

def isDigit (c : Char) : Bool := '0' ≤ c && c ≤ '9'

def digitValue (c : Char) : Nat := c.toNat - 48

def greatestNatural : Nat := Nat.pow 2 64 - 1

/-- Append digits to a significand while it fits 64 bits; the result tells how many were left. -/
def absorb (significand : Nat) : List Char → Nat × Nat
  | [] => (significand, 0)
  | c :: cs =>
    let next := significand * 10 + digitValue c
    if next ≤ greatestNatural then absorb next cs else (significand, (c :: cs).length)

/-- `significand * 10^exponent`, rounded once for every factor of at most `10^308`. -/
def scaleByTen (x : Binary64) (exponent : Int) : Option Binary64 :=
  if exponent.natAbs ≤ 308 then
    if 0 ≤ exponent then
      let y := x.mul (.ofNat (Nat.pow 10 exponent.natAbs))
      if y.isInfinite then none else some y
    else some (x.div (.ofNat (Nat.pow 10 exponent.natAbs)))
  else if x.isZero then some x
  else if 0 ≤ exponent then none
  else scaleByTen (x.div (.ofNat (Nat.pow 10 308))) (exponent + 308)
termination_by exponent.natAbs
decreasing_by omega

def signed (negative : Bool) (x : Binary64) : Binary64 := if negative then x.neg else x

def realOfParts (negative : Bool) (significand : Nat) (exponent : Int) (rest : List Char) :
    Except Issue (Number × List Char) :=
  match scaleByTen (.ofNat significand) exponent with
  | some x => .ok (.real (signed negative x), rest)
  | none => .error (Problem.numberOutOfRange.before rest)

/-- The whole number with these parts: negative zero and what does not fit 64 bits with a sign is
not kept whole. -/
def wholeOfParts (negative : Bool) (significand : Nat) : Number :=
  if !negative then .natural significand
  else if significand = 0 ∨ Nat.pow 2 63 < significand then .real (Binary64.ofNat significand).neg
  else .negative (-(significand : Int))

def greatestExponent : Nat := Nat.pow 2 31 - 1

/-- Read the digits of an exponent: its value, or nothing with what follows the digit that made it
too large. -/
def readExponentDigits (exponent : Nat) : List Char → Except (List Char) (Nat × List Char)
  | [] => .ok (exponent, [])
  | c :: cs =>
    if isDigit c then
      let next := exponent * 10 + digitValue c
      if next ≤ greatestExponent then readExponentDigits next cs else .error cs
    else .ok (exponent, c :: cs)

def readExponent (negative : Bool) (significand : Nat) (start : Int) (s : List Char) :
    Except Issue (Number × List Char) :=
  let (down, s) := match s with
    | '+' :: r => (false, r)
    | '-' :: r => (true, r)
    | r => (false, r)
  match s with
  | [] => .error (Problem.endInValue.before [])
  | c :: r =>
    if isDigit c then
      match readExponentDigits (digitValue c) r with
      | .ok (exponent, rest) =>
        realOfParts negative significand (if down then start - exponent else start + exponent) rest
      | .error rest =>
        if significand ≠ 0 ∧ ¬ down then .error (Problem.numberOutOfRange.before rest)
        else .ok (.real (.zero negative), rest.dropWhile isDigit)
    else .error (Problem.invalidNumber.at (c :: r))

def readFraction (negative : Bool) (significand : Nat) (start : Int) (s : List Char) :
    Except Issue (Number × List Char) :=
  let digits := s.takeWhile isDigit
  let rest := s.dropWhile isDigit
  if digits.isEmpty then
    match rest with
    | [] => .error (Problem.endInValue.before [])
    | c :: r => .error (Problem.invalidNumber.at (c :: r))
  else
    let (significand, unused) := absorb significand digits
    let exponent := start - (digits.length - unused : Nat)
    match rest with
    | c :: r =>
      if c = 'e' ∨ c = 'E' then readExponent negative significand exponent r
      else realOfParts negative significand exponent rest
    | [] => realOfParts negative significand exponent rest

def readTail (negative : Bool) (significand unused : Nat) (s : List Char) :
    Except Issue (Number × List Char) :=
  match s with
  | c :: r =>
    if c = '.' then readFraction negative significand unused r
    else if c = 'e' ∨ c = 'E' then readExponent negative significand unused r
    else if unused = 0 then .ok (wholeOfParts negative significand, s)
    else realOfParts negative significand unused s
  | [] =>
    if unused = 0 then .ok (wholeOfParts negative significand, [])
    else realOfParts negative significand unused []

def readUnsigned (negative : Bool) (s : List Char) : Except Issue (Number × List Char) :=
  match s with
  | [] => .error (Problem.endInValue.before [])
  | c :: r =>
    if c = '0' then
      match r with
      | d :: r' =>
        if isDigit d then .error (Problem.invalidNumber.at (d :: r')) else readTail negative 0 0 r
      | [] => readTail negative 0 0 []
    else if isDigit c then
      let (significand, unused) := absorb 0 (s.takeWhile isDigit)
      readTail negative significand unused (s.dropWhile isDigit)
    else .error (Problem.invalidNumber.at s)

def readNumber (s : List Char) : Except Issue (Number × List Char) :=
  match s with
  | '-' :: r => readUnsigned true r
  | s => readUnsigned false s

def skipExponent (s : List Char) : Except Issue (List Char) :=
  let s := match s with
    | '+' :: r => r
    | '-' :: r => r
    | r => r
  match s with
  | [] => .error (Problem.invalidNumber.before [])
  | c :: r =>
    if isDigit c then .ok (r.dropWhile isDigit) else .error (Problem.invalidNumber.at (c :: r))

def skipFraction (s : List Char) : Except Issue (List Char) :=
  let rest := s.dropWhile isDigit
  if (s.takeWhile isDigit).isEmpty then .error (Problem.invalidNumber.at rest)
  else match rest with
    | c :: r => if c = 'e' ∨ c = 'E' then skipExponent r else .ok rest
    | [] => .ok []

def skipTail (s : List Char) : Except Issue (List Char) :=
  match s with
  | c :: r =>
    if c = '.' then skipFraction r
    else if c = 'e' ∨ c = 'E' then skipExponent r
    else .ok s
  | [] => .ok []

def skipUnsigned (s : List Char) : Except Issue (List Char) :=
  match s with
  | [] => .error (Problem.invalidNumber.before [])
  | c :: r =>
    if c = '0' then
      match r with
      | d :: r' => if isDigit d then .error (Problem.invalidNumber.at (d :: r')) else skipTail r
      | [] => .ok []
    else if isDigit c then skipTail (r.dropWhile isDigit)
    else .error (Problem.invalidNumber.at s)

def skipNumber (s : List Char) : Except Issue (List Char) :=
  match s with
  | '-' :: r => skipUnsigned r
  | s => skipUnsigned s

theorem length_lt_of_skipExponent {s r : List Char} (h : skipExponent s = .ok r) :
    r.length < s.length := by
  have key : ∀ t : List Char, t.length ≤ s.length →
      (match t with
        | [] => .error (Problem.invalidNumber.before [])
        | c :: r =>
          if isDigit c then .ok (r.dropWhile isDigit)
          else .error (Problem.invalidNumber.at (c :: r)) : Except Issue (List Char)) = .ok r →
      r.length < s.length := by
    intro t ht h
    cases t with
    | nil => simp at h
    | cons c t =>
      dsimp only at h
      split at h
      · have := length_dropWhile_le isDigit t
        simp only [Except.ok.injEq] at h
        subst h
        simp only [List.length_cons] at ht
        omega
      · simp at h
  unfold skipExponent at h
  refine key _ ?_ h
  split <;> simp

theorem length_le_of_skipFraction {s r : List Char} (h : skipFraction s = .ok r) :
    r.length ≤ s.length := by
  have hd := length_dropWhile_le isDigit s
  unfold skipFraction at h
  dsimp only at h
  split at h
  · simp at h
  · cases hs : s.dropWhile isDigit with
    | nil =>
      simp only [hs, Except.ok.injEq] at h
      simp [← h]
    | cons c t =>
      simp only [hs] at h hd
      split at h
      · have := length_lt_of_skipExponent h
        simp only [List.length_cons] at hd
        omega
      · simp only [Except.ok.injEq] at h
        rw [← h]
        exact hd

theorem length_le_of_skipTail {s r : List Char} (h : skipTail s = .ok r) :
    r.length ≤ s.length := by
  cases s with
  | nil => simp_all [skipTail]
  | cons c s =>
    simp only [skipTail] at h
    split at h
    · exact Nat.le_succ_of_le (length_le_of_skipFraction h)
    · split at h
      · exact Nat.le_of_lt (Nat.lt_succ_of_lt (length_lt_of_skipExponent h))
      · simp_all

theorem length_lt_of_skipUnsigned {s r : List Char} (h : skipUnsigned s = .ok r) :
    r.length < s.length := by
  cases s with
  | nil => simp [skipUnsigned] at h
  | cons c s =>
    simp only [skipUnsigned] at h
    split at h
    · cases s with
      | nil => simp_all
      | cons d s =>
        dsimp only at h
        split at h
        · simp at h
        · exact Nat.lt_succ_of_le (length_le_of_skipTail h)
    · split at h
      · exact Nat.lt_succ_of_le
          (Nat.le_trans (length_le_of_skipTail h) (length_dropWhile_le isDigit s))
      · simp at h

theorem length_lt_of_skipNumber {s r : List Char} (h : skipNumber s = .ok r) :
    r.length < s.length := by
  unfold skipNumber at h
  split at h
  · exact Nat.lt_succ_of_lt (length_lt_of_skipUnsigned h)
  · exact length_lt_of_skipUnsigned h

def hexValue? (c : Char) : Option Nat :=
  if '0' ≤ c ∧ c ≤ '9' then some (c.toNat - 48)
  else if 'a' ≤ c ∧ c ≤ 'f' then some (c.toNat - 87)
  else if 'A' ≤ c ∧ c ≤ 'F' then some (c.toNat - 55)
  else none

def utf8Length (s : List Char) : Nat := s.foldr (fun c n => c.utf8Size + n) 0

def hexCode? (a b c d : Char) : Option Nat := do
  return (((← hexValue? a) * 16 + (← hexValue? b)) * 16 + (← hexValue? c)) * 16 + (← hexValue? d)

def refuseCode (s : List Char) : Issue :=
  if utf8Length s < 4 then Problem.endInString.before [] else ⟨.invalidEscape, ⟨s, 4⟩⟩

def readCode (s : List Char) : Except Issue (Nat × Rest s) :=
  match s with
  | a :: b :: c :: d :: r =>
    match hexCode? a b c d with
    | some n => .ok (n, ⟨r, by simp; omega⟩)
    | none => .error (refuseCode (a :: b :: c :: d :: r))
  | s => .error (refuseCode s)

def isHighSurrogate (n : Nat) : Bool := 0xD800 ≤ n && n ≤ 0xDBFF

def isLowSurrogate (n : Nat) : Bool := 0xDC00 ≤ n && n ≤ 0xDFFF

def readLowSurrogate (high : Nat) (s : List Char) : Except Issue (Char × Rest s) :=
  match s with
  | [] => .error (Problem.endInString.before [])
  | c :: s₁ =>
    if c ≠ '\\' then .error (Problem.unfinishedSurrogatePair.at (c :: s₁))
    else match s₁ with
      | [] => .error (Problem.endInString.before [])
      | d :: s₂ =>
        if d ≠ 'u' then .error (Problem.unfinishedSurrogatePair.at (d :: s₂))
        else match readCode s₂ with
          | .error i => .error i
          | .ok (low, ⟨r, h⟩) =>
            if isLowSurrogate low then
              .ok (Char.ofNat (0x10000 + (high - 0xD800) * 0x400 + (low - 0xDC00)),
                ⟨r, by simp; omega⟩)
            else .error (Problem.loneSurrogate.before r)

def readCodePoint (s : List Char) : Except Issue (Char × Rest s) :=
  match readCode s with
  | .error i => .error i
  | .ok (n, ⟨r, h⟩) =>
    if isLowSurrogate n then .error (Problem.loneSurrogate.before r)
    else if isHighSurrogate n then
      match readLowSurrogate n r with
      | .error i => .error i
      | .ok (c, ⟨r', h'⟩) => .ok (c, ⟨r', by omega⟩)
    else .ok (Char.ofNat n, ⟨r, h⟩)

def shortEscape? (c : Char) : Option Char :=
  if c = '"' ∨ c = '\\' ∨ c = '/' then some c
  else if c = 'b' then some '\x08'
  else if c = 'f' then some '\x0c'
  else if c = 'n' then some '\n'
  else if c = 'r' then some '\r'
  else if c = 't' then some '\t'
  else none

def readEscape (s : List Char) : Except Issue (Char × Rest s) :=
  match s with
  | [] => .error (Problem.endInString.before [])
  | c :: r =>
    if c = 'u' then
      match readCodePoint r with
      | .error i => .error i
      | .ok (x, ⟨r', h⟩) => .ok (x, ⟨r', by simp; omega⟩)
    else match shortEscape? c with
      | some x => .ok (x, ⟨r, by simp⟩)
      | none => .error (Problem.invalidEscape.at (c :: r))

def readString (s : List Char) : Except Issue (List Char × Rest s) :=
  match s with
  | [] => .error (Problem.endInString.before [])
  | c :: r =>
    if c = '"' then .ok ([], ⟨r, by simp⟩)
    else if c = '\\' then
      match readEscape r with
      | .error i => .error i
      | .ok (x, ⟨r₁, h₁⟩) =>
        match readString r₁ with
        | .error i => .error i
        | .ok (xs, ⟨r₂, h₂⟩) => .ok (x :: xs, ⟨r₂, by simp; omega⟩)
    else if c.toNat < 0x20 then .error (Problem.controlCharacter.at (c :: r))
    else match readString r with
      | .error i => .error i
      | .ok (xs, ⟨r₁, h₁⟩) => .ok (c :: xs, ⟨r₁, by simp; omega⟩)
termination_by s.length
decreasing_by all_goals simp_all; try omega

def skipEscape (s : List Char) : Except Issue (Rest s) :=
  match s with
  | [] => .error (Problem.endInString.before [])
  | c :: r =>
    if c = 'u' then
      match readCode r with
      | .error i => .error i
      | .ok (_, ⟨r', h⟩) => .ok ⟨r', by simp; omega⟩
    else if (shortEscape? c).isSome then .ok ⟨r, by simp⟩
    else .error (Problem.invalidEscape.at (c :: r))

def skipString (s : List Char) : Except Issue (Rest s) :=
  match s with
  | [] => .error (Problem.endInString.before [])
  | c :: r =>
    if c = '"' then .ok ⟨r, by simp⟩
    else if c = '\\' then
      match skipEscape r with
      | .error i => .error i
      | .ok ⟨r₁, h₁⟩ =>
        match skipString r₁ with
        | .error i => .error i
        | .ok ⟨r₂, h₂⟩ => .ok ⟨r₂, by simp; omega⟩
    else if c.toNat < 0x20 then .error (Problem.controlCharacter.before (c :: r))
    else match skipString r with
      | .error i => .error i
      | .ok ⟨r₁, h₁⟩ => .ok ⟨r₁, by simp; omega⟩
termination_by s.length
decreasing_by all_goals simp_all; try omega

end DesignCompiler.Json
