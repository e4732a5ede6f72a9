import DesignCompiler.Proofs.Url.Percent
import DesignCompiler.Url.Path

set_option autoImplicit false

/-!
# The segments of a path

A path grows by segments that are encoded and stand for no dots. One segment escapes the rule: what
is written right behind the drive letter of a file is split off from it unseen, so that it may stand
for dots. It is the second segment of its path, behind the drive.
-/
namespace DesignCompiler.Url

theorem exists_isDot_of_writesByte {written : List UInt8} (h : WritesByte 46 written) :
    ∃ d, isDot d = true ∧ written = Text.encode d := by
  cases h with
  | plain => exact ⟨['.'], by decide, by decide⟩
  | @digits high low h =>
    obtain ⟨v, w, hv, hw, hvalue⟩ := hexByte?_eq_some h
    have hvalue : 46 = v.toNat * 16 + w.toNat := hvalue
    have hhigh := hexDigitValue?_eq_some hv
    have hlow := hexDigitValue?_eq_some hw
    obtain rfl : high = 50 := UInt8.toNat_inj.1 (show high.toNat = 50 by omega)
    rcases (show low.toNat = 69 ∨ low.toNat = 101 by omega) with hcapital | hsmall
    · obtain rfl : low = 69 := UInt8.toNat_inj.1 hcapital
      exact ⟨['%', '2', 'E'], by decide, by decide⟩
    · obtain rfl : low = 101 := UInt8.toNat_inj.1 hsmall
      exact ⟨['%', '2', 'e'], by decide, by decide⟩

theorem isSingleDot_of_percentDecode {s : Segment}
    (h : percentDecode (Text.encode s) = Text.encode ['.']) : isSingleDot s = true := by
  obtain ⟨written, tail, hbytes, hwrites, htail⟩ := exists_writesByte h
  obtain ⟨d, hd, rfl⟩ := exists_isDot_of_writesByte hwrites
  rw [percentDecode_eq_nil htail, List.append_nil] at hbytes
  rwa [Text.encode_injective hbytes]

theorem isDoubleDot_of_percentDecode {s : Segment}
    (h : percentDecode (Text.encode s) = Text.encode ['.', '.']) : isDoubleDot s = true := by
  obtain ⟨written, tail, hbytes, hwrites, htail⟩ := exists_writesByte h
  obtain ⟨d, hd, rfl⟩ := exists_isDot_of_writesByte hwrites
  obtain ⟨written, rest, rfl, hwrites, hrest⟩ := exists_writesByte htail
  obtain ⟨e, he, rfl⟩ := exists_isDot_of_writesByte hwrites
  rw [percentDecode_eq_nil hrest, List.append_nil, ← Text.encode_append] at hbytes
  obtain rfl := Text.encode_injective hbytes
  -- Either dot has three spellings.
  simp only [isDot, Bool.or_eq_true, decide_eq_true_eq] at hd he
  rcases hd with (rfl | rfl) | rfl <;> rcases he with (rfl | rfl) | rfl <;> decide

namespace Segment

def Encoded (s : Segment) : Prop := ∀ c ∈ s, inPathSet c = false ∧ c ≠ '/'

/-- An encoded segment that stands for no dots. -/
structure Settled (s : Segment) : Prop where
  encoded : Encoded s
  isSingleDot : isSingleDot s = false
  isDoubleDot : isDoubleDot s = false

variable {s : Segment}

theorem encoded_percentEncode (h : '/' ∉ s) : Encoded (percentEncode inPathSet s) :=
  fun _ hc => inPathSet_of_mem_percentEncode h hc

theorem Encoded.take (h : Encoded s) (n : Nat) : Encoded (s.take n) :=
  fun c hc => h c (List.mem_of_mem_take hc)

theorem Encoded.drop (h : Encoded s) (n : Nat) : Encoded (s.drop n) :=
  fun c hc => h c (List.mem_of_mem_drop hc)

theorem settled_nil : Settled [] := ⟨fun _ h => (nomatch h), rfl, rfl⟩

theorem Settled.percentDecode_ne_dot (h : Settled s) :
    percentDecode (Text.encode s) ≠ Text.encode ['.'] := fun hdot => by
  have hsingle := h.isSingleDot
  rw [isSingleDot_of_percentDecode hdot] at hsingle
  cases hsingle

theorem Settled.percentDecode_ne_dots (h : Settled s) :
    percentDecode (Text.encode s) ≠ Text.encode ['.', '.'] := fun hdots => by
  have hdouble := h.isDoubleDot
  rw [isDoubleDot_of_percentDecode hdots] at hdouble
  cases hdouble

theorem settled_of_colon {c : Char} (h : Encoded [c]) : Settled [c, ':'] where
  encoded := by
    intro d hd
    rcases List.mem_cons.1 hd with rfl | hd
    · exact h d List.mem_cons_self
    · obtain rfl := List.mem_singleton.1 hd
      decide
  isSingleDot := by simp [isSingleDot, isDot]
  isDoubleDot := by simp [isDoubleDot, isDot]

theorem settled_of_isDrive (henc : Encoded s) (h : isDrive s = true) : Settled s := by
  unfold isDrive at h
  split at h
  · rename_i c d
    rw [Bool.and_eq_true, decide_eq_true_eq] at h
    obtain ⟨-, rfl⟩ := h
    exact settled_of_colon fun e he => henc e (List.mem_singleton.1 he ▸ List.mem_cons_self)
  · cases h

theorem settled_of_isDriveLetter (henc : Encoded s) (h : isDriveLetter s = true) :
    Settled (s.take 1 ++ [':']) := by
  unfold isDriveLetter at h
  split at h
  · exact settled_of_colon (henc.take 1)
  · cases h

end Segment

open Segment

/-- The paths that are built: all segments are settled, but for the one behind a drive. -/
inductive Resolved : List Segment → Prop where
  | settled {path : List Segment} (h : ∀ s ∈ path, Settled s) : Resolved path
  | drive {drive second : Segment} {path : List Segment} (hdrive : isDrive drive = true)
      (hencoded : Encoded drive) (hsecond : Encoded second) (h : ∀ s ∈ path, Settled s) :
      Resolved (drive :: second :: path)

namespace Resolved

variable {path : List Segment}

theorem nil : Resolved [] := .settled fun _ h => nomatch h

theorem singleton {s : Segment} (h : Settled s) : Resolved [s] :=
  .settled fun _ ht => List.mem_singleton.1 ht ▸ h

theorem append (hpath : Resolved path) {more : List Segment} (h : ∀ s ∈ more, Settled s) :
    Resolved (path ++ more) := by
  cases hpath with
  | settled hpath => exact .settled (List.forall_mem_append.2 ⟨hpath, h⟩)
  | drive hdrive hencoded hsecond hpath =>
    exact .drive hdrive hencoded hsecond (List.forall_mem_append.2 ⟨hpath, h⟩)

theorem dropLast (hpath : Resolved path) : Resolved path.dropLast := by
  cases hpath with
  | settled hpath => exact .settled fun s hs => hpath s (List.dropLast_subset _ hs)
  | @drive letter second path hdrive hencoded hsecond hpath =>
    cases path with
    | nil => exact singleton (settled_of_isDrive hencoded hdrive)
    | cons s path =>
      rw [List.dropLast_cons_of_ne_nil (by simp), List.dropLast_cons_of_ne_nil (by simp)]
      exact .drive hdrive hencoded hsecond fun t ht => hpath t (List.dropLast_subset _ ht)

theorem leave (hpath : Resolved path) : Resolved (leave path) := by
  unfold Url.leave
  split
  · split
    · exact hpath
    · exact hpath.dropLast
  · exact nil

theorem addSegment (hpath : Resolved path) (file : Bool) {written : Segment} (h : '/' ∉ written)
    (last : Bool) : Resolved (addSegment file path written last) := by
  have hencoded := encoded_percentEncode h
  have hending : ∀ s ∈ (if last then [[]] else [] : List Segment), Settled s := by
    intro s hs
    cases last with
    | false => cases hs
    | true => exact List.mem_singleton.1 hs ▸ settled_nil
  unfold Url.addSegment
  generalize percentEncode inPathSet written = s at hencoded ⊢
  simp only
  split
  -- A drive that is split off: nothing is known of the dots behind it.
  · rename_i hdrive
    simp only [Bool.and_eq_true] at hdrive
    exact .drive hdrive.1.2 (hencoded.take 2) (hencoded.drop 2) fun _ h => nomatch h
  · split
    · exact hpath.leave.append hending
    · rename_i hdouble
      split
      · exact hpath.append hending
      · rename_i hsingle
        split
        · rename_i hletter
          rw [Bool.and_eq_true] at hletter
          exact singleton (settled_of_isDriveLetter hencoded hletter.2)
        · exact hpath.append fun t ht => List.mem_singleton.1 ht ▸
            ⟨hencoded, by simpa using hsingle, by simpa using hdouble⟩

theorem addSegments (hpath : Resolved path) (file : Bool) {parts : List Segment}
    (h : ∀ s ∈ parts, '/' ∉ s) : Resolved (addSegments file path parts) := by
  induction parts generalizing path with
  | nil => exact hpath
  | cons s rest ih =>
    cases rest with
    | nil => exact hpath.addSegment file (h s List.mem_cons_self) true
    | cons t rest =>
      exact ih (hpath.addSegment file (h s List.mem_cons_self) false)
        fun u hu => h u (List.mem_cons_of_mem s hu)

theorem dropWhile_isEmpty (hpath : Resolved path) : Resolved (path.dropWhile List.isEmpty) := by
  cases hpath with
  | settled hpath =>
    exact .settled fun s hs => hpath s ((List.dropWhile_sublist _).subset hs)
  | @drive letter second path hdrive hencoded hsecond hpath =>
    cases letter with
    | nil => cases hdrive
    | cons c letter => exact .drive hdrive hencoded hsecond hpath

end Resolved

theorem resolved_pathOf (file : Bool) {isSeparator : Char → Bool} (hslash : isSeparator '/' = true)
    (text : List Char) : Resolved (pathOf file isSeparator text) := by
  have hparts : ∀ s ∈ Text.splitOn isSeparator text, '/' ∉ s := by
    intro s hs hmem
    rw [Text.not_mem_of_mem_splitOn hs '/' hmem] at hslash
    cases hslash
  have hpath := Resolved.nil.addSegments file hparts
  unfold pathOf
  simp only
  split
  · split
    · exact .singleton settled_nil
    · exact hpath.dropWhile_isEmpty
  · exact hpath

theorem addSegment_of_settled {s : Segment} (h : Settled s) (path : List Segment) (last : Bool) :
    addSegment false path s last = path ++ [s] := by
  rw [addSegment, percentEncode_eq_self fun c hc => (h.encoded c hc).1]
  simp [h.isDoubleDot, h.isSingleDot]

theorem addSegments_of_settled {parts : List Segment} (h : ∀ s ∈ parts, Settled s)
    (path : List Segment) : addSegments false path parts = path ++ parts := by
  induction parts generalizing path with
  | nil => rw [addSegments, List.append_nil]
  | cons s rest ih =>
    have hs := addSegment_of_settled (h s List.mem_cons_self) path
    cases rest with
    | nil => exact hs true
    | cons t rest =>
      rw [addSegments, hs false, ih fun u hu => h u (List.mem_cons_of_mem s hu),
        List.append_assoc, List.singleton_append]
      simp

theorem pathOf_joinWith {isSeparator : Char → Bool} (hslash : isSeparator '/' = true)
    {parts : List Segment} (hne : parts ≠ []) (h : ∀ s ∈ parts, Settled s)
    (hparts : ∀ s ∈ parts, ∀ c ∈ s, isSeparator c = false) :
    pathOf false isSeparator (Text.joinWith '/' parts) = parts := by
  rw [pathOf, Text.splitOn_joinWith hslash hne hparts]
  exact addSegments_of_settled h []

end DesignCompiler.Url
