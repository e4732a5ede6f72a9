set_option autoImplicit false

namespace DesignCompiler.Url.Domain

def digit36? (c : Char) : Option Nat :=
  if 'a' ≤ c ∧ c ≤ 'z' then some (c.toNat - 97)
  else if 'A' ≤ c ∧ c ≤ 'Z' then some (c.toNat - 65)
  else if '0' ≤ c ∧ c ≤ '9' then some (c.toNat - 22)
  else none

/-- The threshold of the digit at `position`, counted in steps of 36 from 36. -/
def threshold (position bias : Nat) : Nat := min 26 (max 1 (position - bias))

def takeNumber? (position weight value bias : Nat) : List Char → Option (Nat × List Char)
  | [] => none
  | c :: cs => do
    let d ← digit36? c
    let value := value + d * weight
    if value ≥ Nat.pow 2 32 then none
    else if d < threshold position bias then some (value, cs)
    else takeNumber? (position + 36) (weight * (36 - threshold position bias)) value bias cs

theorem length_takeNumber?_lt {position weight value bias n : Nat} {cs rest : List Char}
    (h : takeNumber? position weight value bias cs = some (n, rest)) :
    rest.length < cs.length := by
  induction cs generalizing position weight value with
  | nil => simp [takeNumber?] at h
  | cons c cs ih =>
    simp only [takeNumber?] at h
    cases hd : digit36? c with
    | none => simp [hd] at h
    | some d =>
      simp only [hd, Option.bind_eq_bind, Option.bind_some] at h
      split at h
      · simp at h
      · split at h
        · simp only [Option.some.injEq, Prod.mk.injEq] at h
          simp [← h.2]
        · exact Nat.lt_succ_of_lt (ih h)

/-- The step of the bias that leaves a size of at most 455. -/
def biasOf (size : Nat) (steps : Nat) : Nat :=
  if 455 < size then biasOf (size / 35) (steps + 36) else steps + 36 * size / (size + 38)
termination_by size

/-- The bias behind a number of which `count` characters are known; the first is damped. -/
def nextBias (number count : Nat) (first : Bool) : Nat :=
  let size := if first then number / 700 else number / 2
  biasOf (size + size / count) 0

def placeAll? (known : List Char) (code place bias : Nat) (first : Bool) (cs : List Char) :
    Option (List Char) :=
  if cs.isEmpty then some known
  else match h : takeNumber? 36 1 0 bias cs with
    | none => none
    | some (number, rest) =>
      let count := known.length + 1
      let code := code + (place + number) / count
      let place := (place + number) % count
      if code.isValidChar then
        placeAll? (known.take place ++ Char.ofNat code :: known.drop place) code (place + 1)
          (nextBias number count first) false rest
      else none
termination_by cs.length
decreasing_by exact length_takeNumber?_lt h

def splitLastHyphen (cs : List Char) : List Char × List Char :=
  let behind := (cs.reverse.takeWhile (· ≠ '-')).reverse
  (cs.take (cs.length - behind.length - 1), behind)

def decodePunycode? (cs : List Char) : Option (List Char) :=
  let (known, numbers) := splitLastHyphen cs
  placeAll? known 128 0 72 true numbers

end DesignCompiler.Url.Domain
