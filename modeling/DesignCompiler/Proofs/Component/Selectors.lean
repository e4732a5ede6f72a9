import DesignCompiler.Component.Sections
import DesignCompiler.Proofs.Component.StyleSheet
import Mathlib

set_option autoImplicit false

namespace DesignCompiler.Component.StyleSheet

open Script (lines)

def isSelector (line : String) : Bool := line.toList.head? == some '.'

def selectors (style : String) : List String := (lines style).filter isSelector

def IsLetter (c : Char) : Prop := 'a' ≤ c ∧ c ≤ 'z'

/-- A class that a selector can name: a letter, and characters of classes behind it. -/
def IsIdentifier (cls : String) : Prop :=
  ∃ c cs, cls.toList = c :: cs ∧ IsLetter c ∧ ∀ d ∈ cs, isClassChar d = true

def UsableSelectors (style : String) : Prop :=
  ∀ line ∈ selectors style, ∃ cls, line = selectorLine cls ∧ IsIdentifier cls

theorem isSelector_selectorLine (cls : String) : isSelector (selectorLine cls) = true := by
  unfold selectorLine
  simp [isSelector]

theorem isSelector_colourLine (colour : String) : isSelector (colourLine colour) = false := by
  unfold colourLine
  simp [isSelector]

theorem isSelector_sizeLine (size : String) : isSelector (sizeLine size) = false := by
  unfold sizeLine
  simp [isSelector]

theorem Rule.filter_lines (r : Rule) : r.lines.filter isSelector = [selectorLine r.className] := by
  have hclose : isSelector "\x7d" = false := by decide
  obtain ⟨cls, colour, size⟩ := r
  cases colour <;> cases size <;>
    simp [lines, isSelector_selectorLine, isSelector_colourLine, isSelector_sizeLine, hclose]

theorem selectors_render (root : Node) :
    selectors (render root) = (styled root).map fun p => selectorLine (className p.1) := by
  have hlast : [""].filter isSelector = [] := by decide
  rw [selectors, lines_render, List.filter_append, hlast, List.append_nil, List.filter_flatMap,
    rules_eq_map_styled, List.flatMap_map]
  simp only [Rule.filter_lines, Rule.ofStyle]
  rw [← List.map_eq_flatMap]

def firstKept? (name : String) : Option Char := (Text.lowerAll name.toList).find? isKept

theorem head?_className (name : String) : (className name).toList.head? = firstKept? name := by
  rw [toList_className, Text.head?_joinWith_runs, firstKept?]

theorem isIdentifier_className_iff (name : String) :
    IsIdentifier (className name) ↔ ∃ c, firstKept? name = some c ∧ IsLetter c := by
  rw [← head?_className]
  have hchars := className_alphabet name
  constructor
  · rintro ⟨c, cs, hcls, hletter, -⟩
    exact ⟨c, by rw [hcls, List.head?_cons], hletter⟩
  · rintro ⟨c, hhead, hletter⟩
    obtain ⟨cs, hcls⟩ := List.head?_eq_some_iff.1 hhead
    rw [hcls] at hchars
    exact ⟨c, cs, hcls, hletter, fun d hd => hchars d (List.mem_cons_of_mem c hd)⟩

theorem usableSelectors_render_iff (root : Node) : UsableSelectors (render root) ↔
    ∀ p ∈ styled root, ∃ c, firstKept? p.1 = some c ∧ IsLetter c := by
  rw [UsableSelectors, selectors_render, List.forall_mem_map]
  refine forall₂_congr fun p _ => ?_
  rw [← isIdentifier_className_iff]
  constructor
  · rintro ⟨cls, hline, hcls⟩
    rwa [selectorLine_injective hline]
  · intro hcls
    exact ⟨_, rfl, hcls⟩

/-- The selectors of a style sheet name the classes of the styled nodes. They are usable when the
first letter or digit of every such name is a letter: a class begins with it, and without any it is
empty. -/
theorem usableSelectors_iff :
    (∀ (root : Node) (name : String),
      selectors (compile root name).style =
        ((styled root).map fun p => selectorLine (className p.1)) ∧
      (UsableSelectors (compile root name).style ↔
        ∀ p ∈ styled root, ∃ c, firstKept? p.1 = some c ∧ IsLetter c)) ∧
    ∀ name : String, IsClassName (className name) ∧
      (className name).toList.head? = firstKept? name ∧
      (IsIdentifier (className name) ↔ ∃ c, firstKept? name = some c ∧ IsLetter c) :=
  ⟨fun root _ => ⟨selectors_render root, usableSelectors_render_iff root⟩,
    fun name => ⟨isClassName_className name, head?_className name, isIdentifier_className_iff name⟩⟩

set_option maxRecDepth 4000 in
/-- A name of digits gives a selector that begins with a digit, a name of symbols an empty one. -/
theorem not_usableSelectors_of_digits :
    let text := "\x7b\"id\":\"1\",\"name\":\"42\",\"type\":\"FRAME\",\"style\":\x7b\x7d," ++
      "\"children\":[\x7b\"id\":\"2\",\"name\":\"!!!\",\"type\":\"TEXT\"," ++
      "\"style\":\x7b\x7d\x7d]\x7d"
    ∃ root, Node.ofText text = .ok root ∧
      selectors (compile root "Card").style = [".42 \x7b", ". \x7b"] ∧
      ¬ UsableSelectors (compile root "Card").style := by
  intro text
  let symbols : Node := ⟨"2", "!!!", .text, [], some ⟨[]⟩, none⟩
  let root : Node := ⟨"1", "42", .container, [symbols], some ⟨[]⟩, none⟩
  have hread : Node.ofText text = .ok root := by cbv
  have hselectors : selectors (compile root "Card").style = [".42 \x7b", ". \x7b"] := by
    decide +kernel
  refine ⟨root, hread, hselectors, fun h => ?_⟩
  obtain ⟨cls, hline, c, cs, hcls, hletter, -⟩ := h ".42 \x7b" (by rw [hselectors]; simp)
  obtain rfl : "42" = cls := selectorLine_injective hline
  obtain rfl : '4' = c := (List.cons.inj hcls).1
  exact absurd hletter.1 (by decide)

end DesignCompiler.Component.StyleSheet
