import DesignCompiler.Command.Output
import DesignCompiler.Proofs.Text.Runs
import Mathlib.Data.List.DropRight
import Mathlib.Tactic.SplitIfs

set_option autoImplicit false

namespace DesignCompiler.Command

/-- The last name of a path, unless it leads up. -/
def fileName? (path : List Char) : Option (List Char) :=
  (dropHere (Text.splitOn (· = '/') (splitStart path).2)).getLast?.filter (!isUp ·)

section Names
variable {names : List (List Char)} {name : List Char}

theorem dropHere_concat_of_here (h : isHere name = true) :
    dropHere (names ++ [name]) = dropHere names :=
  List.rdropWhile_concat_pos isHere names name h

theorem dropHere_concat_of_not_here (h : isHere name = false) :
    dropHere (names ++ [name]) = names ++ [name] :=
  List.rdropWhile_concat_neg isHere names name (Bool.eq_false_iff.1 h)

theorem dropHere_dropHere : dropHere (dropHere names) = dropHere names :=
  List.rdropWhile_idempotent isHere names

theorem prefix_dropHere : dropHere names <+: names := List.rdropWhile_prefix isHere names

theorem not_here_of_dropHere_eq {kept : List (List Char)} (h : dropHere names = kept ++ [name]) :
    isHere name = false := by
  rw [Bool.eq_false_iff]
  intro hhere
  have hkept : kept ++ [name] = dropHere kept := by
    rw [← dropHere_concat_of_here hhere, ← h, dropHere_dropHere]
  have hlength := (@prefix_dropHere kept).length_le
  rw [← hkept, List.length_append, List.length_singleton] at hlength
  omega

theorem filter_dropHere : (dropHere names).filter (!isHere ·) = names.filter (!isHere ·) := by
  induction names using List.reverseRecOn with
  | nil => rfl
  | append_singleton names name ih =>
    cases h : isHere name with
    | true => rw [dropHere_concat_of_here h, ih, List.filter_append]; simp [h]
    | false => rw [dropHere_concat_of_not_here h]

end Names

theorem splitStart_append_self (path : List Char) :
    (splitStart path).1 ++ (splitStart path).2 = path := by
  unfold splitStart
  split <;> rfl

theorem splitStart_start (path : List Char) :
    splitStart (splitStart path).1 = ((splitStart path).1, []) := by
  have hstart : (splitStart path).1 = [] ∨ (splitStart path).1 = ['.'] ∨
      (splitStart path).1 = ['/'] := by
    unfold splitStart
    split <;> simp
  rcases hstart with h | h | h <;> rw [h] <;> rfl

theorem splitStart_fst_eq_slash {path : List Char} :
    (splitStart path).1 = ['/'] ↔ path.head? = some '/' := by
  unfold splitStart
  split
  · simp
  · simp
  · simp
  · rename_i hslash hdot hdots
    refine iff_of_false (fun h => nomatch h) fun h => ?_
    obtain ⟨rest, hrest⟩ := List.head?_eq_some_iff.1 h
    exact hslash rest hrest

theorem splitStart_eq_self {c : Char} {cs : List Char} (hslash : c ≠ '/')
    (hdot : c = '.' → ∃ d ds, cs = d :: ds ∧ d ≠ '/') : splitStart (c :: cs) = ([], c :: cs) := by
  unfold splitStart
  split <;> simp_all

theorem splitStart_append {base : List Char} (h : base ≠ []) (rest : List Char) :
    splitStart (base ++ '/' :: rest) =
      ((splitStart base).1, (splitStart base).2 ++ '/' :: rest) := by
  cases base with
  | nil => exact absurd rfl h
  | cons c cs =>
    by_cases hslash : c = '/'
    · subst hslash
      rfl
    · by_cases hdot : c = '.'
      · subst hdot
        cases cs with
        | nil => rfl
        | cons d ds =>
          by_cases hd : d = '/'
          · subst hd
            rfl
          · rw [splitStart_eq_self hslash fun _ => ⟨d, ds, rfl, hd⟩, List.cons_append,
              List.cons_append, splitStart_eq_self hslash fun _ => ⟨d, _, rfl, hd⟩]
      · rw [splitStart_eq_self hslash fun he => absurd he hdot, List.cons_append,
          splitStart_eq_self hslash fun he => absurd he hdot]

/-- A path without the names at its end that stay where they are. -/
def tidy (path : List Char) : List Char :=
  (splitStart path).1 ++ Text.joinWith '/' (dropHere (Text.splitOn (· = '/') (splitStart path).2))

section Join
variable {base file : List Char}

theorem splitOn_file (h : '/' ∉ file) : Text.splitOn (· = '/') file = [file] := by
  apply Text.splitOn_eq_singleton
  intro c hc
  rw [decide_eq_false_iff_not]
  rintro rfl
  exact h hc

theorem splitOn_slash (base rest : List Char) : Text.splitOn (· = '/') (base ++ '/' :: rest) =
    Text.splitOn (· = '/') base ++ Text.splitOn (· = '/') rest :=
  Text.splitOn_append_separator (by decide) base rest

theorem directory?_append (hbase : base ≠ []) (hfile : '/' ∉ file) (hhere : isHere file = false) :
    directory? (base ++ '/' :: file) = some (tidy base) := by
  unfold directory? tidy
  rw [splitStart_append hbase]
  dsimp only
  rw [splitOn_slash, splitOn_file hfile, dropHere_concat_of_not_here hhere, List.dropLast_concat]
  simp

theorem fileName?_append (hbase : base ≠ []) (hfile : '/' ∉ file) (hhere : isHere file = false)
    (hup : isUp file = false) : fileName? (base ++ '/' :: file) = some file := by
  unfold fileName?
  rw [splitStart_append hbase]
  dsimp only
  rw [splitOn_slash, splitOn_file hfile, dropHere_concat_of_not_here hhere, List.getLast?_concat]
  simp [hup]

theorem directory?_root (hfile : '/' ∉ file) (hhere : isHere file = false) :
    directory? ('/' :: file) = some ['/'] := by
  have hdrop : dropHere [file] = [file] := @dropHere_concat_of_not_here [] file hhere
  unfold directory?
  rw [splitStart]
  dsimp only
  rw [splitOn_file hfile, hdrop]
  rfl

theorem fileName?_root (hfile : '/' ∉ file) (hhere : isHere file = false)
    (hup : isUp file = false) : fileName? ('/' :: file) = some file := by
  have hdrop : dropHere [file] = [file] := @dropHere_concat_of_not_here [] file hhere
  unfold fileName?
  rw [splitStart]
  dsimp only
  rw [splitOn_file hfile, hdrop]
  simp [hup]

theorem head?_join (hbase : base ≠ []) (hfile : '/' ∉ file) :
    (join base file).head? = base.head? := by
  have hhead : file.head? ≠ some '/' := by
    intro h
    exact hfile (List.mem_of_mem_head? h)
  unfold join
  rw [if_neg hhead]
  cases base with
  | nil => exact absurd rfl hbase
  | cons c cs => split <;> rfl

theorem tidy_append_slash (hbase : base ≠ []) : tidy (base ++ ['/']) = tidy base := by
  unfold tidy
  rw [splitStart_append hbase]
  dsimp only
  rw [splitOn_slash, Text.splitOn, dropHere_concat_of_here rfl]

theorem parts_of_join (hbase : base ≠ []) (hfile : '/' ∉ file) (hhere : isHere file = false)
    (hup : isUp file = false) :
    directory? (join base file) = some (tidy base) ∧ fileName? (join base file) = some file := by
  have hhead : file.head? ≠ some '/' := by
    intro h
    exact hfile (List.mem_of_mem_head? h)
  unfold join
  rw [if_neg hhead]
  by_cases hlast : base.getLast? = some '/'
  · obtain ⟨short, rfl⟩ := List.getLast?_eq_some_iff.1 hlast
    rw [if_pos hlast, List.append_assoc, List.singleton_append]
    cases short with
    | nil => exact ⟨directory?_root hfile hhere, fileName?_root hfile hhere hup⟩
    | cons c cs =>
      have hshort : c :: cs ≠ [] := List.cons_ne_nil c cs
      rw [tidy_append_slash hshort]
      exact ⟨directory?_append hshort hfile hhere, fileName?_append hshort hfile hhere hup⟩
  · rw [if_neg hlast]
    exact ⟨directory?_append hbase hfile hhere, fileName?_append hbase hfile hhere hup⟩

end Join

theorem exists_names_of_directory? {path directory : List Char}
    (h : directory? path = some directory) :
    ∃ names last, dropHere (Text.splitOn (· = '/') (splitStart path).2) = names ++ [last] ∧
      isHere last = false ∧
      directory = (splitStart path).1 ++ Text.joinWith '/' (dropHere names) := by
  unfold directory? at h
  dsimp only at h
  split at h
  · exact nomatch h
  · rename_i hne
    have hnames := (List.dropLast_concat_getLast fun hnil => hne (List.isEmpty_iff.2 hnil)).symm
    exact ⟨_, _, hnames, not_here_of_dropHere_eq hnames, (Option.some.inj h).symm⟩

section Directory
variable {path directory : List Char} {names : List (List Char)} {last : List Char}

theorem dropHere_splitOn_joinWith
    (h : dropHere (Text.splitOn (· = '/') (splitStart path).2) = names ++ [last]) :
    dropHere (Text.splitOn (· = '/') (Text.joinWith '/' (dropHere names))) = dropHere names := by
  by_cases hnil : dropHere names = []
  · rw [hnil]
    rfl
  · have hslash : ∀ part ∈ dropHere names, ∀ c ∈ part, decide (c = '/') = false := by
      intro part hpart
      have hmem : part ∈ names ++ [last] :=
        List.mem_append_left _ (prefix_dropHere.subset hpart)
      rw [← h] at hmem
      exact Text.not_mem_of_mem_splitOn (prefix_dropHere.subset hmem)
    rw [Text.splitOn_joinWith (by decide) hnil hslash, dropHere_dropHere]

theorem splitStart_directory
    (h : dropHere (Text.splitOn (· = '/') (splitStart path).2) = names ++ [last]) :
    splitStart ((splitStart path).1 ++ Text.joinWith '/' (dropHere names)) =
      ((splitStart path).1, Text.joinWith '/' (dropHere names)) := by
  by_cases hnil : dropHere names = []
  · rw [hnil, Text.joinWith, List.append_nil]
    exact splitStart_start path
  · obtain ⟨others, hothers⟩ := @prefix_dropHere names
    obtain ⟨here, hhere⟩ := @prefix_dropHere (Text.splitOn (· = '/') (splitStart path).2)
    rw [h, ← hothers, List.append_assoc, List.append_assoc] at hhere
    have hrest := Text.joinWith_splitOn '/' (splitStart path).2
    rw [← hhere, Text.joinWith_append hnil (by simp)] at hrest
    have hpath := splitStart_append_self path
    rw [← hrest, ← List.append_assoc] at hpath
    -- What is left of the path stands behind a slash.
    generalize Text.joinWith '/' (others ++ ([last] ++ here)) = more at hpath
    by_cases hempty : (splitStart path).1 ++ Text.joinWith '/' (dropHere names) = []
    · rw [(List.append_eq_nil_iff.1 hempty).1, (List.append_eq_nil_iff.1 hempty).2]
      rfl
    · have hstart := congrArg Prod.fst (splitStart_append hempty more)
      rw [hpath] at hstart
      have hself :=
        splitStart_append_self ((splitStart path).1 ++ Text.joinWith '/' (dropHere names))
      rw [← hstart] at hself
      exact Prod.ext hstart.symm (List.append_cancel_left hself)

theorem splitStart_of_directory? (h : directory? path = some directory) :
    (splitStart directory).1 = (splitStart path).1 := by
  obtain ⟨names, last, hnames, -, rfl⟩ := exists_names_of_directory? h
  rw [splitStart_directory hnames]

theorem exists_directory_of_fileName? (h : fileName? path ≠ none) :
    ∃ directory, directory? path = some directory := by
  unfold directory?
  dsimp only
  split
  · rename_i hempty
    rw [fileName?, List.isEmpty_iff.1 hempty] at h
    exact absurd rfl h
  · exact ⟨_, rfl⟩

theorem tidy_directory (h : directory? path = some directory) : tidy directory = directory := by
  obtain ⟨names, last, hnames, -, rfl⟩ := exists_names_of_directory? h
  rw [tidy, splitStart_directory hnames]
  dsimp only
  rw [dropHere_splitOn_joinWith hnames]

end Directory

def components (path : List Char) : List (List Char) :=
  (Text.splitOn (· = '/') path).filter (!isHere ·)

theorem components_eq (path : List Char) : components path =
    (dropHere (Text.splitOn (· = '/') (splitStart path).2)).filter (!isHere ·) := by
  have hslash (cs : List Char) : Text.splitOn (· = '/') ('/' :: cs) =
      [] :: Text.splitOn (· = '/') cs := splitOn_slash [] cs
  have hdot (cs : List Char) : Text.splitOn (· = '/') ('.' :: '/' :: cs) =
      ['.'] :: Text.splitOn (· = '/') cs := splitOn_slash ['.'] cs
  rw [filter_dropHere, components]
  unfold splitStart
  split
  · rw [hslash, List.filter_cons_of_neg (by decide)]
  · rfl
  · rw [hdot, hslash, List.filter_cons_of_neg (by decide), List.filter_cons_of_neg (by decide)]
  · rfl

theorem components_directory {path directory : List Char} (h : directory? path = some directory) :
    components directory = (components path).dropLast := by
  obtain ⟨names, last, hnames, hlast, rfl⟩ := exists_names_of_directory? h
  rw [components_eq path, hnames, components_eq, splitStart_directory hnames]
  dsimp only
  rw [dropHere_splitOn_joinWith hnames, filter_dropHere, List.filter_append,
    List.filter_cons_of_pos (by simp [hlast]), List.filter_nil, List.dropLast_concat]

theorem components_join {base file : List Char} (hfile : '/' ∉ file) (hhere : isHere file = false) :
    components (join base file) = components base ++ [file] := by
  have hlast : [file].filter (!isHere ·) = [file] := List.filter_cons_of_pos (by simp [hhere])
  have hhead : file.head? ≠ some '/' := by
    intro h
    exact hfile (List.mem_of_mem_head? h)
  unfold join components
  rw [if_neg hhead]
  split
  · rename_i hslash
    obtain ⟨short, rfl⟩ := List.getLast?_eq_some_iff.1 hslash
    rw [List.append_assoc, List.singleton_append, splitOn_slash, splitOn_slash, splitOn_file hfile,
      List.filter_append, List.filter_append, hlast, Text.splitOn, List.append_assoc]
    rfl
  · rw [splitOn_slash, splitOn_file hfile, List.filter_append, hlast]

theorem getLast?_components {path name : List Char} (h : fileName? path = some name) :
    (components path).getLast? = some name ∧ isUp name = false := by
  obtain ⟨hlast, hup⟩ := Option.filter_eq_some_iff.1 h
  obtain ⟨names, hnames⟩ := List.getLast?_eq_some_iff.1 hlast
  have hhere := not_here_of_dropHere_eq hnames
  rw [components_eq, hnames, List.filter_append, List.filter_cons_of_pos (by simp [hhere]),
    List.filter_nil, List.getLast?_concat]
  exact ⟨rfl, by simpa using hup⟩

end DesignCompiler.Command
