import DesignCompiler.Component.Sections
import DesignCompiler.Proofs.Text.Infix
import DesignCompiler.Text.Split
import Mathlib.Logic.Basic

set_option autoImplicit false

/-!
# What a script depends on

The script is told from two facts about a tree: whether one of its nodes has a class with a word of
the kit in it, and whether one of its nodes is a text. The words are looked for in the lower-case
form of a name as a whole, and classes are made character by character; both find the same, because
a gap in a class is no part of a word.
-/
namespace DesignCompiler.Component

/-- The class read so far as a word sees it: a gap ends what came before. -/
def ClassScan.seen (s : ClassScan) : List Char := s.name ++ if s.gap then ['-'] else []

theorem ClassScan.infix_seen_step_iff {w : List Char} (hw : w ≠ [])
    (hkept : ∀ c ∈ w, isKept c = true) (s : ClassScan) (c : Char) (cs : List Char) :
    w <:+: (s.step c).seen ++ cs ↔ w <:+: s.seen ++ c :: cs := by
  have hdash : '-' ∉ w := fun h => absurd (hkept '-' h) (by decide)
  obtain ⟨name, gap⟩ := s
  by_cases hc : isKept c = true
  · cases gap with
    | false => simp [step, seen, hc]
    | true =>
      cases name with
      | nil =>
        have h := Text.infix_append_cons_iff hw hdash [] (c :: cs)
        simpa [step, seen, hc, hw] using h.symm
      | cons a as => simp [step, seen, hc]
  · have hcw : c ∉ w := fun h => hc (hkept c h)
    have hstep : (step ⟨name, gap⟩ c).seen ++ cs = name ++ '-' :: cs := by
      simp [step, seen, hc]
    rw [hstep, Text.infix_append_cons_iff hw hdash, Text.infix_append_cons_iff hw hcw]
    refine or_congr_left ?_
    cases gap with
    | false => simp [seen]
    | true =>
      have h := Text.infix_append_cons_iff hw hdash name []
      simpa [seen, hw] using h.symm

theorem ClassScan.infix_foldl_step_iff {w : List Char} (hw : w ≠ [])
    (hkept : ∀ c ∈ w, isKept c = true) (cs : List Char) (s : ClassScan) :
    w <:+: (cs.foldl step s).name ↔ w <:+: s.seen ++ cs := by
  induction cs generalizing s with
  | nil =>
    have hdash : '-' ∉ w := fun h => absurd (hkept '-' h) (by decide)
    have h := Text.infix_append_cons_iff hw hdash s.name []
    cases hg : s.gap <;> simp_all [seen]
  | cons c cs ih => rw [List.foldl_cons, ih, infix_seen_step_iff hw hkept]

/-- A word of letters and digits shows in a class where it shows in the lower-case name. -/
theorem infix_className_iff {w : List Char} (hw : w ≠ []) (hkept : ∀ c ∈ w, isKept c = true)
    (name : String) : w <:+: (className name).toList ↔ w <:+: Text.lowerAll name.toList := by
  rw [className, String.toList_ofList, classChars, ClassScan.infix_foldl_step_iff hw hkept]
  rfl

namespace Script

theorem occursIn_iff (part cs : List Char) : occursIn part cs = true ↔ part <:+: cs := by
  induction cs with
  | nil => simp [occursIn]
  | cons c cs ih => simp [occursIn, List.infix_cons_iff, ih]

def ClassNamesKit (cls : String) : Prop :=
  "button".toList <:+: cls.toList ∨ "icon".toList <:+: cls.toList

instance (cls : String) : Decidable (ClassNamesKit cls) :=
  inferInstanceAs (Decidable ("button".toList <:+: cls.toList ∨ "icon".toList <:+: cls.toList))

theorem occursIn_lowerText_iff {w : List Char} (hw : w ≠ []) (hkept : ∀ c ∈ w, isKept c = true)
    (name : String) :
    occursIn w (Text.lowerText name.toList) = true ↔ w <:+: (className name).toList := by
  have hfinal : 'ς' ∉ w := fun h => absurd (hkept 'ς' h) (by decide)
  have hsigma : 'σ' ∉ w := fun h => absurd (hkept 'σ' h) (by decide)
  rw [occursIn_iff, Text.infix_lowerText_iff hw hfinal hsigma, infix_className_iff hw hkept]

theorem namesKit_iff (name : String) : namesKit name = true ↔ ClassNamesKit (className name) := by
  simp only [namesKit, kitWords, List.any_cons, List.any_nil, Bool.or_false, Bool.or_eq_true]
  rw [occursIn_lowerText_iff (by decide) (List.all_eq_true.1 (by decide)),
    occursIn_lowerText_iff (by decide) (List.all_eq_true.1 (by decide))]
  rfl

mutual

theorem hasText_eq_any : (n : Node) → hasText n = n.preorder.any fun n => n.kind = .text
  | ⟨_, _, _, children, _, _⟩ => by
    rw [hasText, Node.preorder, List.any_cons, anyHasText_eq_any children]

theorem anyHasText_eq_any : (ns : List Node) →
    anyHasText ns = (Node.preorderAll ns).any fun n => n.kind = .text
  | [] => rfl
  | n :: ns => by
    rw [anyHasText, Node.preorderAll, List.any_append, hasText_eq_any n, anyHasText_eq_any ns]

end

mutual

theorem needsKit_eq_any : (n : Node) → needsKit n = n.preorder.any fun n => namesKit n.name
  | ⟨_, _, _, children, _, _⟩ => by
    rw [needsKit, Node.preorder, List.any_cons, anyNeedsKit_eq_any children]

theorem anyNeedsKit_eq_any : (ns : List Node) →
    anyNeedsKit ns = (Node.preorderAll ns).any fun n => namesKit n.name
  | [] => rfl
  | n :: ns => by
    rw [anyNeedsKit, Node.preorderAll, List.any_append, needsKit_eq_any n, anyNeedsKit_eq_any ns]

end

def ShowsKit (root : Node) : Prop := ∃ n ∈ root.preorder, ClassNamesKit (className n.name)

def ShowsText (root : Node) : Prop := ∃ n ∈ root.preorder, n.kind = .text

instance (root : Node) : Decidable (ShowsKit root) :=
  inferInstanceAs (Decidable (∃ n ∈ root.preorder, ClassNamesKit (className n.name)))

instance (root : Node) : Decidable (ShowsText root) :=
  inferInstanceAs (Decidable (∃ n ∈ root.preorder, n.kind = .text))

theorem needsKit_iff (root : Node) : needsKit root = true ↔ ShowsKit root := by
  simp only [needsKit_eq_any, List.any_eq_true, namesKit_iff, ShowsKit]

theorem hasText_iff (root : Node) : hasText root = true ↔ ShowsText root := by
  simp [hasText_eq_any, ShowsText]

theorem render_eq (root : Node) :
    render root = (if ShowsKit root then kitImport else "") ++ "\n\ndefineProps<\x7b\n" ++
      (if ShowsText root then textProp else "") ++ "\n\x7d>();" := by
  simp only [render, compose, imports, props, needsKit_iff, hasText_iff]
  split <;> split <;> rfl

def lines (s : String) : List String := (Text.splitOn (· = '\n') s.toList).map String.ofList

def traits (root : Node) : List (Kind × String) := root.preorder.map fun n => (n.kind, n.name)

theorem showsText_iff_traits (root : Node) :
    ShowsText root ↔ ∃ p ∈ traits root, p.1 = .text := by
  simp only [ShowsText, traits, List.mem_map, exists_exists_and_eq_and]

theorem showsKit_iff_traits (root : Node) :
    ShowsKit root ↔ ∃ p ∈ traits root, ClassNamesKit (className p.2) := by
  simp only [ShowsKit, traits, List.mem_map, exists_exists_and_eq_and]

theorem render_eq_of_traits {t u : Node} (h : ∀ p, p ∈ traits t ↔ p ∈ traits u) :
    render t = render u := by
  have hkit : ShowsKit t ↔ ShowsKit u := by simp only [showsKit_iff_traits, h]
  have htext : ShowsText t ↔ ShowsText u := by simp only [showsText_iff_traits, h]
  simp only [render_eq, hkit, htext]

theorem lines_render (root : Node) :
    lines (render root) = [if ShowsKit root then kitImport else "", "", "defineProps<\x7b",
      if ShowsText root then textProp else "", "\x7d>();"] := by
  rw [render_eq]
  split <;> split <;> decide

theorem count_kitImport (root : Node) :
    (lines (render root)).count kitImport = if ShowsKit root then 1 else 0 := by
  rw [lines_render]
  split <;> split <;> decide

theorem count_textProp (root : Node) :
    (lines (render root)).count textProp = if ShowsText root then 1 else 0 := by
  rw [lines_render]
  split <;> split <;> decide

/-- Names and classes agree on what belongs to the kit. The script holds the import of the kit and
the property for a text once each or not at all, by two facts about the kinds and names of all
nodes, and nothing else of a design. -/
theorem script_of_traits :
    (∀ name : String, namesKit name = true ↔ ClassNamesKit (className name)) ∧
    (∀ (root : Node) (name : String),
      (compile root name).script =
        (if ShowsKit root then kitImport else "") ++ "\n\ndefineProps<\x7b\n" ++
          (if ShowsText root then textProp else "") ++ "\n\x7d>();" ∧
      (lines (compile root name).script).count kitImport = (if ShowsKit root then 1 else 0) ∧
      (lines (compile root name).script).count textProp = (if ShowsText root then 1 else 0)) ∧
    ∀ (t u : Node) (name other : String), (∀ p, p ∈ traits t ↔ p ∈ traits u) →
      (compile t name).script = (compile u other).script :=
  ⟨namesKit_iff, fun root _ => ⟨render_eq root, count_kitImport root, count_textProp root⟩,
    fun _ _ _ _ h => render_eq_of_traits h⟩

/-- The order and the nesting of nodes do not show, nor how often a node is repeated. -/
theorem script_of_row :
    let caption : Node := .leaf "2" "Caption" .text
    let icon : Node := .leaf "3" "play-Icon" .shape
    let row : Node := ⟨"1", "Row", .container, [caption, icon], none, none⟩
    let inner : Node := ⟨"5", "Caption", .text, [.leaf "6" "Row" .container, icon], none, none⟩
    let pile : Node := ⟨"4", "play-Icon", .shape, [inner], some ⟨[]⟩, none⟩
    (∀ p, p ∈ traits row ↔ p ∈ traits pile) ∧ ShowsKit row ∧ ShowsText row ∧
      (compile row "Row").script = (compile pile "Pile").script := by
  intro caption icon row inner pile
  have htraits : ∀ p, p ∈ traits row ↔ p ∈ traits pile := by
    intro p
    simp only [row, pile, inner, caption, icon, traits, Node.leaf, Node.preorder, Node.preorderAll,
      List.map_cons, List.map_nil, List.append_nil, List.cons_append, List.nil_append,
      List.mem_cons, List.not_mem_nil, or_false]
    grind
  exact ⟨htraits, by decide +kernel, by decide +kernel,
    script_of_traits.2.2 row pile "Row" "Pile" htraits⟩

end Script
end DesignCompiler.Component
