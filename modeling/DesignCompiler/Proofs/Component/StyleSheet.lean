import DesignCompiler.Component.StyleSheet
import DesignCompiler.Proofs.Component.ClassName
import DesignCompiler.Proofs.Component.Script
import DesignCompiler.Proofs.Number.Characters

set_option autoImplicit false

namespace DesignCompiler.Component.StyleSheet

open Script (lines)

def rules (n : Node) : List Rule := n.preorder.filterMap Rule.ofNode?

def rulesAll (ns : List Node) : List Rule := (Node.preorderAll ns).filterMap Rule.ofNode?

mutual

theorem toList_emit (out : String) :
    (n : Node) → (emit out n).toList = out.toList ++ (rules n).flatMap (·.text.toList)
  | ⟨_, name, _, children, some style, _⟩ => by
    rw [emit, toList_emitAll _ children]
    simp [rules, rulesAll, Node.preorder, Rule.ofNode?]
  | ⟨_, name, _, children, none, _⟩ => by
    rw [emit, toList_emitAll _ children, rules, Node.preorder, List.filterMap_cons_none rfl]
    rfl

theorem toList_emitAll (out : String) :
    (ns : List Node) → (emitAll out ns).toList = out.toList ++ (rulesAll ns).flatMap (·.text.toList)
  | [] => by simp [emitAll, rulesAll, Node.preorderAll]
  | n :: ns => by
    rw [emitAll, toList_emitAll _ ns, toList_emit _ n]
    simp [rules, rulesAll, Node.preorderAll]

end

def selectorLine (cls : String) : String := "." ++ cls ++ " \x7b"

def colourLine (colour : String) : String := "  background-color: " ++ colour ++ ";"

def sizeLine (size : String) : String := "  font-size: " ++ size ++ "px;"

def Rule.lines (r : Rule) : List String :=
  [selectorLine r.className] ++ (r.colour.map colourLine).toList ++ (r.size.map sizeLine).toList ++
    ["\x7d"]

theorem toList_declareColour (c : String) :
    (declareColour c).toList = (colourLine c).toList ++ ['\n'] := by
  unfold declareColour colourLine
  simp only [String.toList_append, List.append_assoc]
  rfl

theorem toList_declareSize (n : String) :
    (declareSize n).toList = (sizeLine n).toList ++ ['\n'] := by
  unfold declareSize sizeLine
  simp only [String.toList_append, List.append_assoc]
  rfl

theorem Rule.toList_text (r : Rule) :
    r.text.toList = r.lines.flatMap fun line => line.toList ++ ['\n'] := by
  obtain ⟨cls, colour, size⟩ := r
  rw [text, lines]
  cases colour <;> cases size <;>
    simp [selectorLine, toList_declareColour, toList_declareSize]

theorem toList_render (root : Node) : (render root).toList =
    ((rules root).flatMap Rule.lines).flatMap fun line => line.toList ++ ['\n'] := by
  rw [render, toList_emit, List.flatMap_assoc]
  simp only [Rule.toList_text]
  rfl

theorem render_eq_join (root : Node) :
    render root = String.join (((rules root).flatMap Rule.lines).map (· ++ "\n")) := by
  apply String.toList_inj.1
  rw [toList_render, String.toList_join, List.flatMap_map]
  simp only [String.toList_append]
  rfl

def isRuleChar (c : Char) : Bool := isClassChar c || "N .:;,()\x7b\x7d".toList.contains c

def IsRuleText (s : String) : Prop := ∀ c ∈ s.toList, isRuleChar c = true

instance (s : String) : Decidable (IsRuleText s) :=
  decidable_of_iff (s.toList.all isRuleChar = true) List.all_eq_true

theorem isRuleText_append {s t : String} : IsRuleText (s ++ t) ↔ IsRuleText s ∧ IsRuleText t := by
  simp only [IsRuleText, String.toList_append, List.mem_append, or_imp, forall_and]

theorem isRuleText_className (name : String) : IsRuleText (className name) := by
  intro c hc
  simp [isRuleChar, className_alphabet name c hc]

theorem isRuleChar_of_isNumberChar {c : Char} (h : isNumberChar c = true) :
    isRuleChar c = true := by
  rcases Bool.or_eq_true_iff.1 h with h | h
  · have hkept : isKept c = true := by
      simp only [Char.isDigit, ge_iff_le, Bool.and_eq_true, decide_eq_true_eq] at h
      simp only [isKept, Bool.or_eq_true, Bool.and_eq_true, decide_eq_true_eq]
      exact .inr h
    simp [isRuleChar, isClassChar, hkept]
  · have hall : ∀ c ∈ "-.infNa".toList, isRuleChar c = true := List.all_eq_true.1 (by decide)
    exact hall c (List.contains_iff_mem.1 h)

theorem isRuleText_number (x : Binary64) : IsRuleText (number x) := by
  intro c hc
  rw [number, String.toList_ofList] at hc
  exact isRuleChar_of_isNumberChar (x.isNumberChar_of_mem_format c hc)

theorem isRuleText_colour (fill : Fill) : IsRuleText (colour fill) := by
  cases fill with
  | unresolved => decide +kernel
  | rgba r g b a =>
    simp only [colour, isRuleText_append, isRuleText_number]
    decide +kernel

theorem isRuleText_selectorLine (name : String) : IsRuleText (selectorLine (className name)) := by
  unfold selectorLine
  simp only [isRuleText_append, isRuleText_className]
  decide +kernel

theorem isRuleText_colourLine (fill : Fill) : IsRuleText (colourLine (colour fill)) := by
  unfold colourLine
  simp only [isRuleText_append, isRuleText_colour]
  decide +kernel

theorem isRuleText_sizeLine (x : Binary64) : IsRuleText (sizeLine (number x)) := by
  unfold sizeLine
  simp only [isRuleText_append, isRuleText_number]
  decide +kernel

theorem isRuleText_of_mem_lines {name line : String} {style : Style}
    (h : line ∈ (Rule.ofStyle name style).lines) : IsRuleText line := by
  simp only [Rule.lines, Rule.ofStyle, List.mem_append, List.mem_singleton, Option.mem_toList,
    Option.map_map, Option.map_eq_some_iff, Function.comp_apply] at h
  rcases h with ((rfl | ⟨fill, -, rfl⟩) | ⟨size, -, rfl⟩) | rfl
  · exact isRuleText_selectorLine name
  · exact isRuleText_colourLine fill
  · exact isRuleText_sizeLine size
  · decide +kernel

theorem isRuleText_of_mem_rules {root : Node} {line : String}
    (h : line ∈ (rules root).flatMap Rule.lines) : IsRuleText line := by
  obtain ⟨rule, hrule, hline⟩ := List.mem_flatMap.1 h
  obtain ⟨n, -, hn⟩ := List.mem_filterMap.1 hrule
  obtain ⟨style, -, rfl⟩ := Option.map_eq_some_iff.1 hn
  exact isRuleText_of_mem_lines hline

theorem not_mem_render (root : Node) : '<' ∉ (render root).toList := by
  rw [toList_render]
  intro h
  obtain ⟨line, hline, hc⟩ := List.mem_flatMap.1 h
  rcases List.mem_append.1 hc with hc | hc
  · exact absurd (isRuleText_of_mem_rules hline _ hc) (by decide)
  · simp at hc

theorem lines_render (root : Node) :
    lines (render root) = (rules root).flatMap Rule.lines ++ [""] := by
  have hends : ∀ part ∈ ((rules root).flatMap Rule.lines).map String.toList,
      ∀ c ∈ part, decide (c = '\n') = false := by
    intro part hpart c hc
    obtain ⟨line, hline, rfl⟩ := List.mem_map.1 hpart
    have hrule := isRuleText_of_mem_rules hline c hc
    rw [decide_eq_false_iff_not]
    rintro rfl
    exact absurd hrule (by decide)
  have hsplit := Text.splitOn_flatMap_concat (decide_eq_true rfl) hends
  rw [List.flatMap_map] at hsplit
  rw [lines, toList_render, hsplit]
  simp

theorem selectorLine_injective : Function.Injective selectorLine := by
  intro c d h
  unfold selectorLine at h
  rwa [String.append_left_inj, String.append_right_inj] at h

theorem colourLine_injective : Function.Injective colourLine := by
  intro c d h
  unfold colourLine at h
  rwa [String.append_left_inj, String.append_right_inj] at h

theorem sizeLine_injective : Function.Injective sizeLine := by
  intro m n h
  unfold sizeLine at h
  rwa [String.append_left_inj, String.append_right_inj] at h

theorem colourLine_getElem? (c : String) : (colourLine c).toList[2]? = some 'b' := by
  unfold colourLine
  simp

theorem sizeLine_getElem? (n : String) : (sizeLine n).toList[2]? = some 'f' := by
  unfold sizeLine
  simp

theorem optionalLine_append_inj {f : String → String} (hf : Function.Injective f)
    {x y : Option String} {as bs : List String} (ha : ∀ s, as.head? ≠ some (f s))
    (hb : ∀ s, bs.head? ≠ some (f s)) (h : (x.map f).toList ++ as = (y.map f).toList ++ bs) :
    x = y ∧ as = bs := by
  cases x with
  | none =>
    cases y with
    | none => exact ⟨rfl, h⟩
    | some s =>
      obtain rfl : as = f s :: bs := h
      exact absurd rfl (ha s)
  | some r =>
    cases y with
    | none =>
      obtain rfl : f r :: as = bs := h
      exact absurd rfl (hb r)
    | some s =>
      obtain ⟨hline, hrest⟩ := List.cons.inj h
      exact ⟨congrArg some (hf hline), hrest⟩

theorem head?_close_ne_sizeLine (as : List String) (n : String) :
    ("\x7d" :: as).head? ≠ some (sizeLine n) := by
  intro h
  have hthird := sizeLine_getElem? n
  rw [← Option.some.inj h] at hthird
  exact nomatch hthird

theorem head?_size_ne_colourLine (size : Option String) (as : List String) (c : String) :
    ((size.map sizeLine).toList ++ "\x7d" :: as).head? ≠ some (colourLine c) := by
  intro h
  have hthird := colourLine_getElem? c
  cases size with
  | none =>
    rw [← Option.some.inj h] at hthird
    exact nomatch hthird
  | some n =>
    rw [← Option.some.inj h, sizeLine_getElem?] at hthird
    exact absurd hthird (by decide)

/-- A rule is told from its lines, whatever lines follow. -/
theorem Rule.lines_append_inj {r s : Rule} {as bs : List String}
    (h : r.lines ++ as = s.lines ++ bs) : r = s ∧ as = bs := by
  obtain ⟨cls, colour, size⟩ := r
  obtain ⟨cls', colour', size'⟩ := s
  simp only [lines, List.append_assoc, List.cons_append, List.nil_append] at h
  -- The selector is always there; a colour is told from a size, and both from the closing line.
  obtain ⟨hselector, hbehind⟩ := List.cons.inj h
  obtain ⟨hcolour, hbehind⟩ := optionalLine_append_inj colourLine_injective
    (head?_size_ne_colourLine size as) (head?_size_ne_colourLine size' bs) hbehind
  obtain ⟨hsize, hbehind⟩ := optionalLine_append_inj sizeLine_injective
    (head?_close_ne_sizeLine as) (head?_close_ne_sizeLine bs) hbehind
  rw [selectorLine_injective hselector, hcolour, hsize]
  exact ⟨rfl, (List.cons.inj hbehind).2⟩

theorem eq_of_flatMap_lines {rs ss : List Rule}
    (h : rs.flatMap Rule.lines = ss.flatMap Rule.lines) : rs = ss := by
  induction rs generalizing ss with
  | nil =>
    cases ss with
    | nil => rfl
    | cons s ss => simp [Rule.lines] at h
  | cons r rs ih =>
    cases ss with
    | nil => simp [Rule.lines] at h
    | cons s ss =>
      obtain ⟨rfl, hrest⟩ := Rule.lines_append_inj h
      rw [ih hrest]

def styled (root : Node) : List (String × Style) :=
  root.preorder.filterMap fun n => n.style.map (n.name, ·)

theorem rules_eq_map_styled (root : Node) :
    rules root = (styled root).map fun p => Rule.ofStyle p.1 p.2 := by
  have hrule : Rule.ofNode? = fun n =>
      (n.style.map (n.name, ·)).map fun p => Rule.ofStyle p.1 p.2 := by
    funext n
    rw [Rule.ofNode?, Option.map_map]
    rfl
  rw [rules, styled, List.map_filterMap, hrule]

/-- A style sheet is made of the rules of the styled nodes, in the order of the nodes, and tells
them: which class each has, and its colour and its size if it has them. Nothing else of a design
shows in it. -/
theorem render_eq_iff_rules_eq :
    (∀ root : Node, render root =
      String.join (((rules root).flatMap Rule.lines).map (· ++ "\n"))) ∧
    (∀ t u : Node, render t = render u ↔ rules t = rules u) ∧
    ∀ t u : Node, styled t = styled u → render t = render u := by
  refine ⟨render_eq_join, fun t u => ⟨fun h => ?_, fun h => ?_⟩, fun t u h => ?_⟩
  · have hlines := congrArg lines h
    rw [lines_render, lines_render] at hlines
    exact eq_of_flatMap_lines (List.append_cancel_right hlines)
  · rw [render_eq_join, render_eq_join, h]
  · rw [render_eq_join, render_eq_join, rules_eq_map_styled, rules_eq_map_styled, h]

/-- What stands between the styled nodes does not show, nor what they are nested in. -/
theorem render_of_row :
    let label : Style := ⟨[.fontSize (.ofNat 14), .ignored "a", .fill .unresolved]⟩
    let caption : Node := ⟨"2", "Caption", .text, [], some label, some "\x7d"⟩
    let row : Node := ⟨"1", "Row", .container, [.leaf "3" "Gap" .shape, caption], some ⟨[]⟩, none⟩
    let inner : Node := ⟨"5", "Caption", .other, [], some label, none⟩
    let wrapper : Node := ⟨"6", "Wrapper", .shape, [inner], none, none⟩
    let pile : Node := ⟨"4", "Row", .shape, [wrapper], some ⟨[]⟩, none⟩
    styled row = styled pile ∧ render row = render pile ∧
      (rules row).flatMap Rule.lines = [".row \x7b", "\x7d", ".caption \x7b",
        "  background-color: transparent;", "  font-size: 14px;", "\x7d"] := by
  intro label caption row inner wrapper pile
  have hstyled : styled row = styled pile := rfl
  exact ⟨hstyled, render_eq_iff_rules_eq.2.2 row pile hstyled, by decide +kernel⟩

end DesignCompiler.Component.StyleSheet
