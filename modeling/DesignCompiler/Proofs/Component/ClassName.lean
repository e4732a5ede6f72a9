import DesignCompiler.Component.ClassName
import DesignCompiler.Proofs.Text.Runs

set_option autoImplicit false

namespace DesignCompiler.Component

def isClassChar (c : Char) : Bool := isKept c || c = '-'

/-- From a class that has begun, the scan goes on with the run it stands in, unless there is a gap,
and puts a dash in front of every further run. -/
theorem ClassScan.name_foldl_of_ne_nil {name : List Char} (h : name ≠ []) (cs : List Char) :
    (cs.foldl step ⟨name, false⟩).name = name ++ cs.takeWhile isKept ++
        (Text.runs isKept (cs.dropWhile isKept)).flatMap ('-' :: ·) ∧
      (cs.foldl step ⟨name, true⟩).name = name ++ (Text.runs isKept cs).flatMap ('-' :: ·) := by
  -- Both states go on in one induction, since each character leads from one to the other.
  induction cs generalizing name with
  | nil => simp [Text.runs_nil]
  | cons c cs ih =>
    cases hc : isKept c with
    | false =>
      have hstep (gap : Bool) : step ⟨name, gap⟩ c = ⟨name, true⟩ := by simp [step, hc]
      rw [List.foldl_cons, List.foldl_cons, hstep, hstep, (ih h).2,
        List.takeWhile_cons_of_neg (by simp [hc]), List.dropWhile_cons_of_neg (by simp [hc]),
        Text.runs_cons_of_neg hc]
      simp
    | true =>
      have hrun : step ⟨name, false⟩ c = ⟨name ++ [c], false⟩ := by simp [step, hc]
      have hgap : step ⟨name, true⟩ c = ⟨name ++ ['-', c], false⟩ := by simp [step, hc, h]
      rw [List.foldl_cons, List.foldl_cons, hrun, hgap, (ih (by simp)).1, (ih (by simp)).1,
        List.takeWhile_cons_of_pos hc, List.dropWhile_cons_of_pos hc, Text.runs_cons_of_pos hc]
      simp

theorem ClassScan.name_foldl_nil (cs : List Char) (gap : Bool) :
    (cs.foldl step ⟨[], gap⟩).name = Text.joinWith '-' (Text.runs isKept cs) := by
  induction cs generalizing gap with
  | nil => rfl
  | cons c cs ih =>
    cases hc : isKept c with
    | false =>
      have hstep : step ⟨[], gap⟩ c = ⟨[], true⟩ := by simp [step, hc]
      rw [List.foldl_cons, hstep, ih, Text.runs_cons_of_neg hc]
    | true =>
      have hstep : step ⟨[], gap⟩ c = ⟨[c], false⟩ := by simp [step, hc]
      rw [List.foldl_cons, hstep, (name_foldl_of_ne_nil (by simp) cs).1, Text.runs_cons_of_pos hc,
        Text.joinWith_cons]
      rfl

theorem toList_className (name : String) : (className name).toList =
    Text.joinWith '-' (Text.runs isKept (Text.lowerAll name.toList)) := by
  rw [className, String.toList_ofList, classChars]
  exact ClassScan.name_foldl_nil _ false

/-- Runs of kept characters with single dashes between them, or nothing. -/
def IsClassName (cls : String) : Prop :=
  ∃ runs : List (List Char), (∀ run ∈ runs, run ≠ [] ∧ ∀ c ∈ run, isKept c = true) ∧
    cls.toList = Text.joinWith '-' runs

theorem isClassName_className (name : String) : IsClassName (className name) :=
  ⟨_, fun _ => Text.of_mem_runs, toList_className name⟩

theorem IsClassName.alphabet {cls : String} (h : IsClassName cls) :
    ∀ c ∈ cls.toList, isClassChar c = true := by
  obtain ⟨runs, hruns, hcls⟩ := h
  intro c hc
  rw [hcls] at hc
  rcases Text.mem_joinWith hc with rfl | ⟨run, hrun, hc⟩
  · rfl
  · simp [isClassChar, (hruns run hrun).2 c hc]

theorem className_alphabet (name : String) :
    ∀ c ∈ (className name).toList, isClassChar c = true := (isClassName_className name).alphabet

theorem not_mem_className (name : String) (c : Char) (h : isClassChar c = false) :
    c ∉ (className name).toList := by
  intro hc
  rw [className_alphabet name c hc] at h
  exact Bool.noConfusion h

theorem lower_of_isClassChar {c : Char} (h : isClassChar c = true) : Text.lower c = [c] := by
  have hlt : c.toNat < 128 := by
    simp only [isClassChar, isKept, Bool.or_eq_true, Bool.and_eq_true, decide_eq_true_eq] at h
    rcases h with (⟨-, h⟩ | ⟨-, h⟩) | rfl
    · exact Nat.lt_of_le_of_lt (show c.toNat ≤ 122 from h) (by decide)
    · exact Nat.lt_of_le_of_lt (show c.toNat ≤ 57 from h) (by decide)
    · decide
  have hascii : ∀ n < 128, isClassChar (Char.ofNat n) = true →
      Text.lower (Char.ofNat n) = [Char.ofNat n] := by decide +kernel
  have hc := hascii c.toNat hlt
  rw [Char.ofNat_toNat] at hc
  exact hc h

theorem lowerAll_of_forall_isClassChar {cs : List Char} (h : ∀ c ∈ cs, isClassChar c = true) :
    Text.lowerAll cs = cs := by
  induction cs with
  | nil => rfl
  | cons c cs ih =>
    have hcs := ih fun d hd => h d (List.mem_cons_of_mem c hd)
    rw [Text.lowerAll, List.flatMap_cons, lower_of_isClassChar (h c List.mem_cons_self),
      ← Text.lowerAll, hcs]
    rfl

theorem lower_toLower (c : Char) : Text.lower c.toLower = Text.lower c := by
  by_cases hc : c.val ≥ 'A'.val ∧ c.val ≤ 'Z'.val
  · have hcapital : ∀ n < 26, isClassChar (Char.ofNat (65 + n)).toLower = true ∧
        Text.lower (Char.ofNat (65 + n)) = [(Char.ofNat (65 + n)).toLower] := by decide +kernel
    have hge : 65 ≤ c.toNat := hc.1
    have hle : c.toNat ≤ 90 := hc.2
    obtain ⟨hsmall, hlower⟩ := hcapital (c.toNat - 65) (by omega)
    rw [Nat.add_sub_cancel' hge, Char.ofNat_toNat] at hsmall hlower
    rw [lower_of_isClassChar hsmall, hlower]
  · have hsame : c.toLower = c := dif_neg hc
    rw [hsame]

theorem lowerAll_map_toLower (cs : List Char) :
    Text.lowerAll (cs.map Char.toLower) = Text.lowerAll cs := by
  rw [Text.lowerAll, List.flatMap_map, Text.lowerAll]
  simp only [lower_toLower]

theorem className_eq_self_iff (cls : String) : className cls = cls ↔ IsClassName cls := by
  constructor
  · intro h
    rw [← h]
    exact isClassName_className cls
  · intro h
    have hlower := lowerAll_of_forall_isClassChar h.alphabet
    obtain ⟨runs, hruns, hcls⟩ := h
    apply String.toList_inj.1
    rw [toList_className, hlower, hcls, Text.runs_joinWith rfl hruns]

theorem exists_className_iff (cls : String) :
    (∃ name, className name = cls) ↔ IsClassName cls := by
  constructor
  · rintro ⟨name, rfl⟩
    exact isClassName_className name
  · intro h
    exact ⟨cls, (className_eq_self_iff cls).2 h⟩

/-- The class of a name is made of the runs of letters and digits in its lower-case form. What has
this form is a class, and is its own class; the case of letters of ASCII does not show. -/
theorem className_projection :
    (∀ name : String, (className name).toList =
      Text.joinWith '-' (Text.runs isKept (Text.lowerAll name.toList))) ∧
    (∀ cls : String, (∃ name, className name = cls) ↔ IsClassName cls) ∧
    (∀ cls : String, className cls = cls ↔ IsClassName cls) ∧
    (∀ name : String, className (className name) = className name) ∧
    ∀ name other : String, name.toList.map Char.toLower = other.toList.map Char.toLower →
      className name = className other := by
  refine ⟨toList_className, exists_className_iff, className_eq_self_iff, fun name => ?_,
    fun name other h => ?_⟩
  · exact (className_eq_self_iff _).2 (isClassName_className name)
  · apply String.toList_inj.1
    rw [toList_className, toList_className, ← lowerAll_map_toLower, h, lowerAll_map_toLower]

/-- The dotted capital I falls into a letter and a mark, and the sign of kelvins is a letter. -/
theorem className_of_kelvin :
    let name := "--\u0130con_4 \u212A!"
    let other := "--\u0130CON_4 \u212A!"
    name.toList.map Char.toLower = other.toList.map Char.toLower ∧
      className name = className other ∧ className other = "i-con-4-k" := by
  intro name other
  have hcase : name.toList.map Char.toLower = other.toList.map Char.toLower := by decide
  exact ⟨hcase, className_projection.2.2.2.2 name other hcase, by decide +kernel⟩

end DesignCompiler.Component
