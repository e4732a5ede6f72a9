set_option autoImplicit false

namespace DesignCompiler.Text

/-- How a first byte goes on: the continuation bytes, the range of the first of them, and the bits
of the first byte. -/
def leadOf? (b : UInt8) : Option (Nat × UInt8 × UInt8 × Nat) :=
  if 0xC2 ≤ b && b ≤ 0xDF then some (1, 0x80, 0xBF, b.toNat - 0xC0)
  else if b = 0xE0 then some (2, 0xA0, 0xBF, 0)
  else if b = 0xED then some (2, 0x80, 0x9F, 0xD)
  else if 0xE1 ≤ b && b ≤ 0xEF then some (2, 0x80, 0xBF, b.toNat - 0xE0)
  else if b = 0xF0 then some (3, 0x90, 0xBF, 0)
  else if b = 0xF4 then some (3, 0x80, 0x8F, 4)
  else if 0xF1 ≤ b && b ≤ 0xF3 then some (3, 0x80, 0xBF, b.toNat - 0xF0)
  else none

def takeTails : (count : Nat) → (low high : UInt8) → (code : Nat) → List UInt8 →
    Option Char × List UInt8
  | 0, _, _, code, bs => (some (Char.ofNat code), bs)
  | _ + 1, _, _, _, [] => (none, [])
  | count + 1, low, high, code, b :: bs =>
    if low ≤ b && b ≤ high then
      takeTails count 0x80 0xBF (code * 64 + (b.toNat - 0x80)) bs
    else (none, b :: bs)

theorem length_takeTails_le (count : Nat) (low high : UInt8) (code : Nat) (bs : List UInt8) :
    (takeTails count low high code bs).2.length ≤ bs.length := by
  induction count generalizing low high code bs with
  | zero => simp [takeTails]
  | succ count ih =>
    cases bs with
    | nil => simp [takeTails]
    | cons b bs =>
      simp only [takeTails]
      split
      · exact Nat.le_succ_of_le (ih _ _ _ _)
      · exact Nat.le_refl _

/-- The character that comes first, or nothing where a wrong start is passed over. -/
def decodeStep (b : UInt8) (bs : List UInt8) : Option Char × List UInt8 :=
  if b < 0x80 then (some (Char.ofNat b.toNat), bs)
  else match leadOf? b with
    | some (count, low, high, code) => takeTails count low high code bs
    | none => (none, bs)

theorem length_decodeStep_le (b : UInt8) (bs : List UInt8) :
    (decodeStep b bs).2.length ≤ bs.length := by
  unfold decodeStep
  split
  · exact Nat.le_refl _
  · split
    · exact length_takeTails_le _ _ _ _ _
    · exact Nat.le_refl _

def decodeParts : List UInt8 → List (Option Char)
  | [] => []
  | b :: bs => (decodeStep b bs).1 :: decodeParts (decodeStep b bs).2
termination_by bs => bs.length
decreasing_by
  have := length_decodeStep_le b bs
  simp only [List.length_cons]
  omega

def decode? (bs : List UInt8) : Option (List Char) := (decodeParts bs).mapM id

/-- The text of a byte sequence, with U+FFFD for all that goes wrong. -/
def decodeLenient (bs : List UInt8) : List Char := (decodeParts bs).map (·.getD '\uFFFD')

def encode (cs : List Char) : List UInt8 := cs.flatMap String.utf8EncodeChar

end DesignCompiler.Text
