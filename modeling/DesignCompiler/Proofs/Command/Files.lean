import DesignCompiler.Command.Files
import DesignCompiler.Proofs.Json.Reading
import DesignCompiler.Proofs.Text.Utf8
import Mathlib.Tactic.SplitIfs

set_option autoImplicit false

namespace DesignCompiler.FileTree

variable {t : FileTree} {place : Place}

theorem find?_of_walk_cons {start : Place} {name : List Char} {names : List (List Char)}
    (h : t.walk start (name :: names) = .ok place) : t.find? start = some .directory := by
  rw [walk] at h
  cases hstart : t.find? start with
  | none => simp [hstart] at h
  | some entry =>
    cases entry with
    | file bytes => simp [hstart] at h
    | directory => rfl

theorem walk_put {q : Place} (hq : t.find? q ≠ some .directory) (bytes : List UInt8)
    (names : List (List Char)) (start : Place) (h : t.walk start names = .ok place) :
    (t.put q bytes).walk start names = .ok place := by
  induction names generalizing start with
  | nil => exact h
  | cons name names ih =>
    have hstart := find?_of_walk_cons h
    have hne : start ≠ q := fun heq => hq (heq ▸ hstart)
    have hput : (t.put q bytes).find? start = some .directory := by
      rw [find?_put_of_ne t bytes hne, hstart]
    simp only [walk, hstart] at h
    simp only [walk, hput]
    split_ifs at h ⊢ with hhere hup hlong
    · exact ih start h
    · exact ih start.dropLast h
    · exact ih (start ++ [name]) h

theorem locate_eq_ok {path : List Char} :
    t.locate path = .ok place ↔ (Text.encode path).length ≤ pathLimit ∧
      t.walk (t.start path) (Text.splitOn (· = '/') path) = .ok place := by
  unfold locate
  split_ifs with hlong
  · simp [Nat.not_le.2 hlong]
  · simp [Nat.le_of_not_lt hlong]

theorem locate_put {q : Place} (hq : t.find? q ≠ some .directory) (bytes : List UInt8)
    {path : List Char} (h : t.locate path = .ok place) :
    (t.put q bytes).locate path = .ok place := by
  obtain ⟨hlimit, hwalk⟩ := locate_eq_ok.1 h
  exact locate_eq_ok.2 ⟨hlimit, walk_put hq bytes _ _ hwalk⟩

theorem locate_of_target {path : List Char} (h : t.target path = .ok place) :
    t.locate path = .ok place ∧ t.find? place ≠ some .directory := by
  simp only [target] at h
  obtain ⟨found, hfound, h⟩ := Json.bind_eq_ok.1 h
  split_ifs at h with hrefused
  · cases h
  · rw [Bool.or_eq_true, not_or, Bool.not_eq_true', Bool.not_eq_false, List.isEmpty_iff,
      decide_eq_true_eq] at hrefused
    obtain ⟨hslashes, hdirectory⟩ := hrefused
    cases h
    rw [hslashes, List.length_nil, Nat.sub_zero, List.take_length] at hfound
    exact ⟨hfound, hdirectory⟩

/-- How a tree is left by writing a text to a path: the path leads to a file with the bytes of the
text, from which the text is read, and every other place is as it was. -/
structure Written (before after : FileTree) (path text : String) (place : Place) : Prop where
  target : before.target path.toList = .ok place
  found : after.find? place = some (.file (Text.encode text.toList))
  read : after.readText path = .ok text
  kept : ∀ other ≠ place, after.find? other = before.find? other

theorem written_of_writeText {after : FileTree} {path text : String}
    (h : t.writeText path text = .ok after) : ∃ place, t.Written after path text place := by
  obtain ⟨place, htarget, hafter⟩ := Json.bind_eq_ok.1 h
  obtain ⟨hlocate, hdirectory⟩ := locate_of_target htarget
  obtain rfl : t.put place (Text.encode text.toList) = after := by
    simpa [pure, Except.pure] using hafter
  have hfound := find?_put_self t (Text.encode text.toList) hdirectory
  refine ⟨place, htarget, hfound, ?_, fun other hne => find?_put_of_ne t _ hne⟩
  rw [readText, locate_put hdirectory _ hlocate]
  simp [bind, Except.bind, hfound, textOfBytes, Text.decode?_encode]

end DesignCompiler.FileTree
