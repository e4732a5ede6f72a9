import DesignCompiler.Proofs.Command.Paths
import DesignCompiler.Proofs.Command.Run

set_option autoImplicit false

namespace DesignCompiler

namespace Command

/-- The directory of an input; the working directory, if none is written. -/
def directoryOf (input : String) : List Char :=
  ((directory? input.toList).filter (!·.isEmpty)).getD ['.']

def outputName (name : String) : List Char := name.toList ++ ".vue".toList

/-- The default output for a name is in the directory of the input, under this name. -/
def GoesBeside (input name : String) : Prop :=
  directory? (defaultOutput input name).toList = some (directoryOf input) ∧
    fileName? (defaultOutput input name).toList = some (outputName name)

theorem toList_defaultOutput (input name : String) :
    (defaultOutput input name).toList = join (directoryOf input) (outputName name) :=
  String.toList_ofList

theorem head?_directoryOf {input : String} (h : fileName? input.toList ≠ none) :
    (directoryOf input).head? = some '/' ↔ input.toList.head? = some '/' := by
  obtain ⟨directory, hdirectory⟩ := exists_directory_of_fileName? h
  have hstart := splitStart_of_directory? hdirectory
  rw [← splitStart_fst_eq_slash, ← splitStart_fst_eq_slash, directoryOf, hdirectory, ← hstart]
  cases directory with
  | nil => exact iff_of_false (by decide) (by decide)
  | cons c cs => exact Iff.rfl

theorem directoryOf_ne_nil (input : String) : directoryOf input ≠ [] := by
  unfold directoryOf
  cases h : directory? input.toList with
  | none => simp
  | some directory => cases directory <;> exact List.cons_ne_nil _ _

theorem tidy_directoryOf (input : String) : tidy (directoryOf input) = directoryOf input := by
  unfold directoryOf
  cases h : directory? input.toList with
  | none => rfl
  | some directory =>
    cases directory with
    | nil => rfl
    | cons c cs => exact tidy_directory h

theorem components_directoryOf (input : String) :
    components (directoryOf input) = (components input.toList).dropLast := by
  unfold directoryOf
  cases h : directory? input.toList with
  | none =>
    have hnil : dropHere (Text.splitOn (· = '/') (splitStart input.toList).2) = [] := by
      unfold directory? at h
      dsimp only at h
      split at h
      · rename_i hempty
        exact List.isEmpty_iff.1 hempty
      · exact nomatch h
    rw [components_eq input.toList, hnil]
    rfl
  | some directory =>
    rw [← components_directory h]
    cases directory <;> rfl

theorem four_le_length_outputName (name : String) : 4 ≤ (outputName name).length := by
  rw [outputName, List.length_append]
  exact Nat.le_add_left _ _

theorem isHere_outputName (name : String) : isHere (outputName name) = false := by
  have hlength := four_le_length_outputName name
  rw [isHere, Bool.or_eq_false_iff, List.isEmpty_eq_false_iff, decide_eq_false_iff_not]
  constructor <;> intro h <;> simp [h] at hlength

theorem isUp_outputName (name : String) : isUp (outputName name) = false := by
  have hlength := four_le_length_outputName name
  rw [isUp, decide_eq_false_iff_not]
  intro h
  simp [h] at hlength

theorem slash_mem_outputName {name : String} : '/' ∈ outputName name ↔ '/' ∈ name.toList := by
  simp [outputName]

theorem not_mem_of_fileName? {path name : List Char} (h : fileName? path = some name) :
    '/' ∉ name := by
  obtain ⟨hlast, -⟩ := Option.filter_eq_some_iff.1 h
  have hmem := prefix_dropHere.subset (List.mem_of_getLast? hlast)
  intro hslash
  exact absurd (Text.not_mem_of_mem_splitOn hmem '/' hslash) (by decide)

theorem goesBeside_iff (input name : String) : GoesBeside input name ↔ '/' ∉ name.toList := by
  constructor
  · rintro ⟨-, hname⟩
    have hslash := not_mem_of_fileName? hname
    rwa [slash_mem_outputName] at hslash
  · intro hslash
    rw [← slash_mem_outputName] at hslash
    obtain ⟨hdirectory, hname⟩ := parts_of_join (directoryOf_ne_nil input) hslash
      (isHere_outputName name) (isUp_outputName name)
    rw [tidy_directoryOf] at hdirectory
    unfold GoesBeside
    rw [toList_defaultOutput]
    exact ⟨hdirectory, hname⟩

end Command

namespace FileTree
open Command
variable {t : FileTree} {start place : Place}

theorem walk_append_eq_ok {as bs : List (List Char)} :
    t.walk start (as ++ bs) = .ok place ↔
      ∃ p, t.walk start as = .ok p ∧ t.walk p bs = .ok place := by
  induction as generalizing start with
  | nil => simp [walk]
  | cons name as ih =>
    rw [List.cons_append, walk, walk]
    cases t.find? start with
    | none => simp
    | some entry =>
      cases entry with
      | file bytes => simp
      | directory =>
        split_ifs
        · exact ih
        · exact ih
        · simp
        · exact ih

theorem walk_filter {names : List (List Char)} (h : t.walk start names = .ok place) :
    t.walk start (names.filter (!isHere ·)) = .ok place := by
  induction names generalizing start with
  | nil => exact h
  | cons name names ih =>
    have hstart := find?_of_walk_cons h
    rw [walk, hstart] at h
    cases hhere : isHere name with
    | true =>
      rw [hhere] at h
      rw [List.filter_cons_of_neg (by simp [hhere])]
      exact ih h
    | false =>
      rw [List.filter_cons_of_pos (by simp [hhere]), walk, hstart]
      simp only [hhere, Bool.false_eq_true, if_false] at h ⊢
      split_ifs at h ⊢
      · exact ih h
      · exact ih h

theorem exists_directory_of_locate {path name : List Char} (h : t.locate path = .ok place)
    (hplace : t.find? place ≠ some .directory) (hname : fileName? path = some name) :
    ∃ p, t.walk (t.start path) (components path).dropLast = .ok p ∧ place = p ++ [name] := by
  obtain ⟨hlast, hup⟩ := getLast?_components hname
  obtain ⟨names, last, hnames⟩ :=
    List.eq_nil_or_concat (Text.splitOn (· = '/') path) |>.resolve_left (Text.splitOn_ne_nil _ path)
  have hwalk := (locate_eq_ok.1 h).2
  rw [hnames, List.concat_eq_append, walk_append_eq_ok] at hwalk
  obtain ⟨p, hp, hstep⟩ := hwalk
  have hdirectory := find?_of_walk_cons hstep
  simp only [walk, hdirectory] at hstep
  cases hhere : isHere last with
  | true =>
    rw [hhere, if_pos rfl] at hstep
    cases hstep
    exact absurd hdirectory hplace
  | false =>
    have hcomponents : components path = names.filter (!isHere ·) ++ [last] := by
      rw [components, hnames, List.concat_eq_append, List.filter_append,
        List.filter_cons_of_pos (by simp [hhere]), List.filter_nil]
    rw [hcomponents, List.getLast?_concat, Option.some.injEq] at hlast
    subst hlast
    rw [hcomponents, List.dropLast_concat]
    refine ⟨p, walk_filter hp, ?_⟩
    simp only [hhere, hup, Bool.false_eq_true, if_false] at hstep
    split at hstep
    · cases hstep
    · exact (Except.ok.inj hstep).symm

theorem locate_of_readText {path text : String} (h : t.readText path = .ok text) :
    ∃ place, t.locate path.toList = .ok place ∧ t.find? place ≠ some .directory := by
  obtain ⟨place, hplace, hread⟩ := Json.bind_eq_ok.1 h
  refine ⟨place, hplace, fun hdirectory => ?_⟩
  rw [hdirectory] at hread
  exact nomatch hread

theorem Written.beside {after : FileTree} {input name text component : String}
    (hinput : fileName? input.toList ≠ none) (hname : '/' ∉ name.toList)
    (hread : t.readText input = .ok text)
    (h : t.Written after (defaultOutput input name) component place) :
    ∃ directory file, t.locate input.toList = .ok (directory ++ [file]) ∧
      place = directory ++ [outputName name] := by
  obtain ⟨file, hfile⟩ := Option.ne_none_iff_exists'.1 hinput
  obtain ⟨-, houtput⟩ := (goesBeside_iff input name).2 hname
  obtain ⟨source, hsource, hsourceFile⟩ := locate_of_readText hread
  obtain ⟨htarget, htargetFile⟩ := locate_of_target h.target
  obtain ⟨p, hp, rfl⟩ := exists_directory_of_locate hsource hsourceFile hfile
  obtain ⟨q, hq, rfl⟩ := exists_directory_of_locate htarget htargetFile houtput
  rw [← slash_mem_outputName] at hname
  have hstart : t.start (defaultOutput input name).toList = t.start input.toList := by
    have hhead := head?_directoryOf hinput
    rw [toList_defaultOutput, FileTree.start, FileTree.start,
      head?_join (directoryOf_ne_nil input) hname, if_congr hhead rfl rfl]
  rw [hstart, toList_defaultOutput, components_join hname (isHere_outputName name),
    List.dropLast_concat, components_directoryOf, hp] at hq
  obtain rfl : p = q := Except.ok.inj hq
  exact ⟨p, file, hsource, rfl⟩

end FileTree

namespace Command

def WritesDefault (task : Task) (input name : String) : Prop :=
  task = .render input name none ∨ ∃ url, task = .build url name input none

/-- For names without a slash, and only for them, the default output is in the directory of the
input under the name of the component; and what a command writes by default is put there. -/
theorem defaultOutput_beside_iff {input name : String} (hinput : fileName? input.toList ≠ none) :
    (GoesBeside input name ↔ '/' ∉ name.toList) ∧
    ('/' ∉ name.toList → ∀ environment arguments task t outcome after,
      Task.ofArguments environment arguments = .ok task → WritesDefault task input name →
      (run FileTree.access environment arguments).run t = (outcome, after) → outcome.code = 0 →
        ∃ directory file component, t.locate input.toList = .ok (directory ++ [file]) ∧
          t.Written after (defaultOutput input name) component
            (directory ++ [outputName name])) := by
  refine ⟨goesBeside_iff input name, ?_⟩
  intro hname environment arguments task t outcome after htask hdefault hrun hcode
  rw [run_of_ok htask] at hrun
  obtain ⟨rfl, rfl⟩ := Prod.ext_iff.1 hrun
  have hcareful := FileTree.careful_access
  have hwritten : ∃ text component place, t.readText input = .ok text ∧
      t.Written ((task.run FileTree.access).run t).2 (defaultOutput input name) component
        place := by
    rcases hdefault with rfl | ⟨url, rfl⟩
    · obtain ⟨text, component, hread, -, hwrite⟩ :=
        (Task.code_render_eq_zero_iff hcareful input name none t).1 hcode
      obtain ⟨place, hwritten⟩ := FileTree.written_of_run_write hwrite
      exact ⟨text, component, place, hread, hwritten⟩
    · obtain ⟨text, reply, hread, -, hwrite⟩ :=
        (Task.code_build_eq_zero_iff hcareful url name input none t).1 hcode
      obtain ⟨place, hwritten⟩ := FileTree.written_of_run_write hwrite
      exact ⟨text, reply.component, place, hread, hwritten⟩
  obtain ⟨text, component, place, hread, hwritten⟩ := hwritten
  obtain ⟨directory, file, hlocate, rfl⟩ := hwritten.beside hinput hname hread
  exact ⟨directory, file, component, hlocate, hwritten⟩

/-- Neither the spelling of the input nor a name that ends like a file leads elsewhere. -/
theorem defaultOutput_beside_nested :
    let text := "\x7b\"id\":\"1\",\"name\":\"Card\",\"type\":\"FRAME\"\x7d"
    let t : FileTree := ⟨[(["designs".toList], .directory),
      (["designs".toList, "card".toList], .file (Text.encode text.toList))], []⟩
    let arguments := ["render", "./designs//card", "--name", "..vue"]
    let rendered := (run FileTree.access (fun _ => none) arguments).run t
    fileName? "./designs//card".toList = some "card".toList ∧ rendered.1.code = 0 ∧
      GoesBeside "./designs//card" "..vue" ∧
      ∃ directory file component, t.locate "./designs//card".toList = .ok (directory ++ [file]) ∧
        t.Written rendered.2 "./designs/..vue.vue" component
          (directory ++ [outputName "..vue"]) := by
  intro text t arguments rendered
  have hfile : fileName? "./designs//card".toList = some "card".toList := by decide
  have hcode : rendered.1.code = 0 := by decide +kernel
  have hinput : fileName? "./designs//card".toList ≠ none := fun h => nomatch hfile.symm.trans h
  obtain ⟨hiff, hbeside⟩ := @defaultOutput_beside_iff "./designs//card" "..vue" hinput
  exact ⟨hfile, hcode, hiff.2 (by decide), hbeside (by decide) (fun _ => none) arguments _ t
    rendered.1 rendered.2 rfl (.inl rfl) (Prod.eta rendered).symm hcode⟩

/-- A name that leads up is accepted, and its component is written above the input. -/
theorem not_goesBeside_of_up :
    let text := "\x7b\"id\":\"1\",\"name\":\"Card\",\"type\":\"FRAME\"\x7d"
    let t : FileTree := ⟨[(["designs".toList], .directory),
      (["designs".toList, "card.json".toList], .file (Text.encode text.toList))], []⟩
    let arguments := ["render", "designs/card.json", "--name", "../Card"]
    let rendered := (run FileTree.access (fun _ => none) arguments).run t
    Task.ofArguments (fun _ => none) arguments = .ok (.render "designs/card.json" "../Card" none) ∧
      fileName? "designs/card.json".toList = some "card.json".toList ∧ rendered.1.code = 0 ∧
      t.find? ["Card.vue".toList] = none ∧ (rendered.2.find? ["Card.vue".toList]).isSome = true ∧
      ¬ GoesBeside "designs/card.json" "../Card" := by
  intro text t arguments rendered
  refine ⟨rfl, by decide, by decide +kernel, by decide, by decide +kernel, fun h => ?_⟩
  exact absurd ((goesBeside_iff _ _).1 h) (by decide)

end Command
end DesignCompiler
