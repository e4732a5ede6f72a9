import DesignCompiler.Proofs.Component.Readback
import DesignCompiler.Proofs.Component.Script
import DesignCompiler.Proofs.Text.Runs
import Mathlib.Data.List.Basic

set_option autoImplicit false

/-!
# Levels as margins

As long as no text that is shown has a second line, the lines of a template are rows that each
belong to a node: a container has one that opens it and one that closes it, around the rows of its
children, and any other node has a single one. The margin of a row tells the level of its node, two
spaces for each. So the number of lines and the widest margin tell how many nodes a tree has and how
deep it is, if only containers have children.
-/
namespace DesignCompiler.Component.Template
open Text
open Script (lines)

/-- What a row is of its node. -/
inductive Part where
  | opening
  | closing
  | single
deriving DecidableEq, Repr

structure Row where
  level : Nat
  part : Part
  node : Node

namespace Row

def tag (r : Row) : String :=
  match r.part, r.node.kind with
  | .opening, _ => openTag "div" (className r.node.name)
  | .closing, _ => closeTag "div"
  | .single, .text =>
    openTag "span" (className r.node.name) ++ r.node.text.getD "" ++ closeTag "span"
  | .single, _ => openTag "div" (className r.node.name) ++ closeTag "div"

def line (r : Row) : String := marginText r.level ++ r.tag

def place (r : Row) : Nat × Node := (r.level, r.node)

end Row

mutual

def rows (level : Nat) : Node → List Row
  | ⟨id, name, .container, children, style, text⟩ =>
    ⟨level, .opening, ⟨id, name, .container, children, style, text⟩⟩ ::
      (rowsAll (level + 1) children ++
        [⟨level, .closing, ⟨id, name, .container, children, style, text⟩⟩])
  | n => [⟨level, .single, n⟩]

def rowsAll (level : Nat) : List Node → List Row
  | [] => []
  | n :: ns => rows level n ++ rowsAll level ns

end

mutual

/-- The nodes that a template shows, each before its children and with its level: the root, and what
has only containers above it. -/
def shown (level : Nat) : Node → List (Nat × Node)
  | ⟨id, name, .container, children, style, text⟩ =>
    (level, ⟨id, name, .container, children, style, text⟩) :: shownAll (level + 1) children
  | n => [(level, n)]

def shownAll (level : Nat) : List Node → List (Nat × Node)
  | [] => []
  | n :: ns => shown level n ++ shownAll level ns

end

theorem rows_single (level : Nat) {n : Node} (h : n.kind ≠ .container) :
    rows level n = [⟨level, .single, n⟩] := by
  obtain ⟨id, name, kind, children, style, text⟩ := n
  cases kind with
  | container => exact absurd rfl h
  | _ => rw [rows]; simp

theorem shown_single (level : Nat) {n : Node} (h : n.kind ≠ .container) :
    shown level n = [(level, n)] := by
  obtain ⟨id, name, kind, children, style, text⟩ := n
  cases kind with
  | container => exact absurd rfl h
  | _ => rw [shown]; simp

mutual

theorem cons_markup (depth : Nat) : (n : Node) → (∀ x ∈ shownTexts n, '\n' ∉ x.toList) →
    '\n' :: markup depth n = (rows depth n).flatMap fun r => '\n' :: r.line.toList
  | ⟨_, name, .container, children, _, _⟩, h => by
    rw [shownTexts] at h
    simp [rows, markup, element, Row.line, Row.tag, marginText, markupAll_eq_flatMap_rows _ _ h]
  | ⟨_, name, .text, _, _, text⟩, h => by
    rw [shownTexts] at h
    have htext : '\n' ∉ (text.getD "").toList := h _ (List.mem_singleton_self _)
    simp [rows, markup, element, Row.line, Row.tag, marginText, hang_eq_self _ _ htext]
  | ⟨_, name, .shape, _, _, _⟩, _ => by simp [rows, markup, element, Row.line, Row.tag, marginText]
  | ⟨_, name, .other, _, _, _⟩, _ => by simp [rows, markup, element, Row.line, Row.tag, marginText]

theorem markupAll_eq_flatMap_rows (depth : Nat) :
    (ns : List Node) → (∀ x ∈ shownTextsAll ns, '\n' ∉ x.toList) →
      markupAll depth ns = (rowsAll depth ns).flatMap fun r => '\n' :: r.line.toList
  | [], _ => by simp [markupAll, rowsAll]
  | n :: ns, h => by
    rw [shownTextsAll] at h
    have hn := cons_markup depth n fun x hx => h x (List.mem_append_left _ hx)
    have hns := markupAll_eq_flatMap_rows depth ns fun x hx => h x (List.mem_append_right _ hx)
    rw [markupAll, rowsAll, List.flatMap_append, ← hn, ← hns]
    rfl

end

mutual

theorem text_mem_shownTexts (level : Nat) : (n : Node) → ∀ r ∈ rows level n,
    r.part = .single → r.node.kind = .text → r.node.text.getD "" ∈ shownTexts n
  | ⟨_, name, kind, children, _, text⟩, r, hr, hpart, hkind => by
    by_cases hcontainer : kind = .container
    · subst hcontainer
      rw [rows] at hr
      rw [shownTexts]
      rcases List.mem_cons.1 hr with rfl | hr
      · exact nomatch hpart
      · rcases List.mem_append.1 hr with hr | hr
        · exact text_mem_shownTextsAll (level + 1) children r hr hpart hkind
        · rw [List.mem_singleton.1 hr] at hpart
          exact nomatch hpart
    · rw [rows_single level hcontainer, List.mem_singleton] at hr
      subst hr
      obtain rfl : kind = .text := hkind
      rw [shownTexts]
      exact List.mem_singleton_self _

theorem text_mem_shownTextsAll (level : Nat) : (ns : List Node) → ∀ r ∈ rowsAll level ns,
    r.part = .single → r.node.kind = .text → r.node.text.getD "" ∈ shownTextsAll ns
  | [], _, hr, _, _ => by
    rw [rowsAll] at hr
    exact nomatch hr
  | n :: ns, r, hr, hpart, hkind => by
    rw [rowsAll] at hr
    rw [shownTextsAll]
    rcases List.mem_append.1 hr with hr | hr
    · exact List.mem_append_left _ (text_mem_shownTexts level n r hr hpart hkind)
    · exact List.mem_append_right _ (text_mem_shownTextsAll level ns r hr hpart hkind)

end

theorem Row.not_mem_line (r : Row)
    (h : r.part = .single → r.node.kind = .text → '\n' ∉ (r.node.text.getD "").toList) :
    '\n' ∉ r.line.toList := by
  obtain ⟨level, part, node⟩ := r
  have hcls := not_mem_className node.name '\n' rfl
  have hmargin := not_mem_margin level
  rw [line, marginText, String.toList_append, String.toList_ofList, List.mem_append, not_or]
  refine ⟨hmargin, ?_⟩
  cases part with
  | opening => simp [tag, openTag, hcls]
  | closing => simp [tag, closeTag]
  | single =>
    cases hkind : node.kind with
    | text =>
      have htext := h rfl hkind
      simp [tag, hkind, openTag, closeTag, hcls, htext]
    | _ => simp [tag, hkind, openTag, closeTag, hcls]

theorem exists_rows_eq_cons (level : Nat) (n : Node) :
    ∃ r rs, rows level n = r :: rs ∧ r.level = level := by
  obtain ⟨id, name, kind, children, style, text⟩ := n
  cases kind <;> exact ⟨_, _, rfl, rfl⟩

theorem lines_render_eq_rows {n : Node} (h : ∀ x ∈ shownTexts n, '\n' ∉ x.toList) :
    lines (render n) = (rows 0 n).map Row.line := by
  have hparts : ∀ part ∈ (rows 0 n).map fun r => r.line.toList,
      ∀ c ∈ part, decide (c = '\n') = false := by
    intro part hpart c hc
    obtain ⟨r, hr, rfl⟩ := List.mem_map.1 hpart
    have hline := r.not_mem_line fun hp hk => h _ (text_mem_shownTexts 0 n r hr hp hk)
    rw [decide_eq_false_iff_not]
    rintro rfl
    exact hline hc
  have hmarkup := cons_markup 0 n h
  obtain ⟨r, rs, hrows, -⟩ := exists_rows_eq_cons 0 n
  rw [hrows, List.flatMap_cons, List.cons_append, List.cons.injEq] at hmarkup
  have hjoin : markup 0 n = joinWith '\n' ((rows 0 n).map fun r => r.line.toList) := by
    rw [hmarkup.2, hrows, List.map_cons, joinWith_cons, List.flatMap_map]
  rw [lines, toList_render, hjoin, splitOn_joinWith (by decide) (by simp [hrows]) hparts,
    List.map_map]
  exact List.map_congr_left fun r _ => String.ofList_toList

mutual

theorem map_place_filter_rows (level : Nat) : (n : Node) →
    ((rows level n).filter (·.part ≠ .closing)).map Row.place = shown level n
  | ⟨_, _, kind, children, _, _⟩ => by
    by_cases hkind : kind = .container
    · subst hkind
      have hchildren := map_place_filter_rowsAll (level + 1) children
      simpa [rows, shown, Row.place] using hchildren
    · rw [rows_single level hkind, shown_single level hkind]
      rfl

theorem map_place_filter_rowsAll (level : Nat) : (ns : List Node) →
    ((rowsAll level ns).filter (·.part ≠ .closing)).map Row.place = shownAll level ns
  | [] => by simp [rowsAll, shownAll]
  | n :: ns => by
    rw [rowsAll, shownAll, List.filter_append, List.map_append, map_place_filter_rows level n,
      map_place_filter_rowsAll level ns]

end

mutual

/-- Every container that is shown has one closing row. -/
theorem closing_rows_perm (level : Nat) : (n : Node) →
    (((rows level n).filter (·.part = .closing)).map Row.place).Perm
      ((shown level n).filter (·.2.kind = .container))
  | ⟨_, _, kind, children, _, _⟩ => by
    by_cases hkind : kind = .container
    · subst hkind
      have hchildren := closing_rowsAll_perm (level + 1) children
      rw [rows, shown, List.filter_cons_of_neg (by simp), List.filter_append, List.map_append,
        List.filter_cons_of_pos (by simp), List.filter_cons_of_pos (by simp)]
      exact (List.perm_append_singleton _ _).trans (hchildren.cons _)
    · rw [rows_single level hkind, shown_single level hkind, List.filter_cons_of_neg (by simp),
        List.filter_cons_of_neg (by simpa using hkind)]
      exact List.Perm.nil

theorem closing_rowsAll_perm (level : Nat) : (ns : List Node) →
    (((rowsAll level ns).filter (·.part = .closing)).map Row.place).Perm
      ((shownAll level ns).filter (·.2.kind = .container))
  | [] => by simp [rowsAll, shownAll]
  | n :: ns => by
    rw [rowsAll, shownAll, List.filter_append, List.map_append, List.filter_append]
    exact (closing_rows_perm level n).append (closing_rowsAll_perm level ns)

end

mutual

theorem rows_infix_of_mem_shown (level : Nat) : (n : Node) → ∀ p ∈ shown level n,
    rows p.1 p.2 <:+: rows level n
  | ⟨_, _, kind, children, _, _⟩, p, hp => by
    by_cases hkind : kind = .container
    · subst hkind
      rw [shown] at hp
      rcases List.mem_cons.1 hp with rfl | hp
      · exact List.infix_rfl
      · have hchildren := rowsAll_infix_of_mem_shownAll (level + 1) children p hp
        rw [rows]
        exact hchildren.trans (List.infix_append [_] _ [_])
    · rw [shown_single level hkind, List.mem_singleton] at hp
      subst hp
      exact List.infix_rfl

theorem rowsAll_infix_of_mem_shownAll (level : Nat) : (ns : List Node) → ∀ p ∈ shownAll level ns,
    rows p.1 p.2 <:+: rowsAll level ns
  | [], p, hp => by
    rw [shownAll] at hp
    exact nomatch hp
  | n :: ns, p, hp => by
    rw [shownAll] at hp
    rw [rowsAll]
    rcases List.mem_append.1 hp with hp | hp
    · exact (rows_infix_of_mem_shown level n p hp).trans (List.prefix_append _ _).isInfix
    · exact (rowsAll_infix_of_mem_shownAll level ns p hp).trans (List.suffix_append _ _).isInfix

end

def indentation (line : String) : Nat := (line.toList.takeWhile (· = ' ')).length

theorem Row.exists_line_eq (r : Row) :
    ∃ rest, r.line.toList = List.replicate (2 * r.level) ' ' ++ '<' :: rest := by
  obtain ⟨level, part, node⟩ := r
  have htag : ∃ rest, (tag ⟨level, part, node⟩).toList = '<' :: rest := by
    cases part with
    | opening => simp [tag, openTag]
    | closing => simp [tag, closeTag]
    | single => cases hkind : node.kind <;> simp [tag, hkind, openTag]
  obtain ⟨rest, hrest⟩ := htag
  refine ⟨rest, ?_⟩
  rw [line, marginText, String.toList_append, String.toList_ofList, hrest, margin]

theorem indentation_line (r : Row) : indentation r.line = 2 * r.level := by
  obtain ⟨rest, hline⟩ := r.exists_line_eq
  rw [indentation, hline, List.takeWhile_append_of_pos (by simp),
    List.takeWhile_cons_of_neg (by simp)]
  simp

def NestsInContainers (n : Node) : Prop := ∀ m ∈ n.preorder, m.children ≠ [] → m.kind = .container

mutual

theorem map_snd_shown (level : Nat) : (n : Node) → NestsInContainers n →
    (shown level n).map Prod.snd = n.preorder
  | ⟨_, _, kind, children, _, _⟩, h => by
    rw [NestsInContainers, Node.preorder, List.forall_mem_cons] at h
    by_cases hkind : kind = .container
    · subst hkind
      rw [shown, Node.preorder, List.map_cons, map_snd_shownAll (level + 1) children h.2]
    · obtain rfl : children = [] := by
        by_contra hne
        exact hkind (h.1 hne)
      rw [shown_single level hkind]
      simp [Node.preorder, Node.preorderAll]

theorem map_snd_shownAll (level : Nat) : (ns : List Node) →
    (∀ m ∈ Node.preorderAll ns, m.children ≠ [] → m.kind = .container) →
    (shownAll level ns).map Prod.snd = Node.preorderAll ns
  | [], _ => by rw [shownAll, Node.preorderAll]; rfl
  | n :: ns, h => by
    rw [Node.preorderAll, List.forall_mem_append] at h
    rw [shownAll, Node.preorderAll, List.map_append, map_snd_shown level n h.1,
      map_snd_shownAll level ns h.2]

end

mutual

theorem level_lt_of_mem_rows (level : Nat) : (n : Node) → ∀ r ∈ rows level n,
    r.level < level + n.depth
  | ⟨_, _, kind, children, _, _⟩, r, hr => by
    rw [Node.depth]
    by_cases hkind : kind = .container
    · subst hkind
      rw [rows] at hr
      rcases List.mem_cons.1 hr with rfl | hr
      · dsimp only
        omega
      · rcases List.mem_append.1 hr with hr | hr
        · have hlt := level_lt_of_mem_rowsAll (level + 1) children r hr
          omega
        · rw [List.mem_singleton.1 hr]
          dsimp only
          omega
    · rw [rows_single level hkind, List.mem_singleton] at hr
      rw [hr]
      dsimp only
      omega

theorem level_lt_of_mem_rowsAll (level : Nat) : (ns : List Node) → ∀ r ∈ rowsAll level ns,
    r.level < level + Node.depthAll ns
  | [], r, hr => by
    rw [rowsAll] at hr
    exact nomatch hr
  | n :: ns, r, hr => by
    rw [rowsAll] at hr
    rw [Node.depthAll]
    rcases List.mem_append.1 hr with hr | hr
    · have hlt := level_lt_of_mem_rows level n r hr
      omega
    · have hlt := level_lt_of_mem_rowsAll level ns r hr
      omega

end

mutual

theorem exists_deepest_row (level : Nat) : (n : Node) → NestsInContainers n →
    ∃ r ∈ rows level n, r.level + 1 = level + n.depth
  | ⟨id, name, kind, children, style, text⟩, h => by
    rw [NestsInContainers, Node.preorder, List.forall_mem_cons] at h
    rw [Node.depth]
    by_cases hne : children = []
    · obtain ⟨r, rs, hrows, hlevel⟩ :=
        exists_rows_eq_cons level ⟨id, name, kind, children, style, text⟩
      refine ⟨r, ?_, ?_⟩
      · rw [hrows]
        exact List.mem_cons_self
      · rw [hne, Node.depthAll, hlevel]
    · obtain rfl : kind = .container := h.1 hne
      obtain ⟨r, hr, hlevel⟩ := exists_deepest_rowAll (level + 1) children hne h.2
      refine ⟨r, ?_, by omega⟩
      rw [rows]
      exact List.mem_cons_of_mem _ (List.mem_append_left _ hr)

theorem exists_deepest_rowAll (level : Nat) : (ns : List Node) → ns ≠ [] →
    (∀ m ∈ Node.preorderAll ns, m.children ≠ [] → m.kind = .container) →
    ∃ r ∈ rowsAll level ns, r.level + 1 = level + Node.depthAll ns
  | [], hne, _ => absurd rfl hne
  | n :: ns, _, h => by
    rw [Node.preorderAll, List.forall_mem_append] at h
    rw [rowsAll, Node.depthAll]
    by_cases hlt : n.depth < Node.depthAll ns
    · have hne : ns ≠ [] := by
        rintro rfl
        exact Nat.not_lt_zero _ hlt
      obtain ⟨r, hr, hlevel⟩ := exists_deepest_rowAll level ns hne h.2
      exact ⟨r, List.mem_append_right _ hr, by omega⟩
    · obtain ⟨r, hr, hlevel⟩ := exists_deepest_row level n h.1
      exact ⟨r, List.mem_append_left _ hr, by omega⟩

end

theorem max?_indentation {n : Node} (h : NestsInContainers n) :
    ((rows 0 n).map fun r => indentation r.line).max? = some (2 * (n.depth - 1)) := by
  simp only [indentation_line]
  rw [List.max?_eq_some_iff]
  constructor
  · obtain ⟨r, hr, hlevel⟩ := exists_deepest_row 0 n h
    exact List.mem_map.2 ⟨r, hr, by omega⟩
  · intro k hk
    obtain ⟨r, hr, rfl⟩ := List.mem_map.1 hk
    have hlt := level_lt_of_mem_rows 0 n r hr
    omega

theorem length_rows (level : Nat) (n : Node) : (rows level n).length =
    (shown level n).length + ((shown level n).filter (·.2.kind = .container)).length := by
  have hopening := congrArg List.length (map_place_filter_rows level n)
  have hclosing := (closing_rows_perm level n).length_eq
  have hsplit := (rows level n).length_eq_length_filter_add (·.part = .closing)
  simp only [List.length_map, ne_eq, decide_not] at hopening hclosing
  omega

theorem length_rows_eq_count {n : Node} (h : NestsInContainers n) :
    (rows 0 n).length = n.count + (n.preorder.filter (·.kind = .container)).length := by
  have hnodes := map_snd_shown 0 n h
  rw [length_rows, ← Node.length_preorder, ← hnodes, List.length_map, List.filter_map,
    List.length_map]
  rfl

theorem rows_container (level : Nat) {n : Node} (h : n.kind = .container) :
    rows level n = ⟨level, .opening, n⟩ ::
      (n.children.flatMap (rows (level + 1)) ++ [⟨level, .closing, n⟩]) := by
  have hall (ns : List Node) : rowsAll (level + 1) ns = ns.flatMap (rows (level + 1)) := by
    induction ns with
    | nil => rw [rowsAll]; rfl
    | cons n ns ih => rw [rowsAll, ih, List.flatMap_cons]
  obtain ⟨id, name, kind, children, style, text⟩ := n
  obtain rfl : kind = .container := h
  rw [rows, hall]

/-- The lines of a template are rows of the nodes that are shown. Each node has a row in the order
of the nodes, each container a second one behind the rows of all that is in it, and the margin of a
row is two spaces for each level. If all of the tree is shown, the number of lines and the widest
margin tell the number of its nodes and its depth. -/
theorem lines_render_by_level (n : Node) (h : ∀ x ∈ shownTexts n, '\n' ∉ x.toList) :
    lines (render n) = (rows 0 n).map Row.line ∧
    ((rows 0 n).filter (·.part ≠ .closing)).map Row.place = shown 0 n ∧
    (((rows 0 n).filter (·.part = .closing)).map Row.place).Perm
      ((shown 0 n).filter (·.2.kind = .container)) ∧
    (∀ p ∈ shown 0 n, rows p.1 p.2 <:+: rows 0 n ∧
      (p.2.kind ≠ .container → rows p.1 p.2 = [⟨p.1, .single, p.2⟩]) ∧
      (p.2.kind = .container → rows p.1 p.2 = ⟨p.1, .opening, p.2⟩ ::
        (p.2.children.flatMap (rows (p.1 + 1)) ++ [⟨p.1, .closing, p.2⟩]))) ∧
    (∀ r ∈ rows 0 n, ∃ rest, r.line.toList = List.replicate (2 * r.level) ' ' ++ '<' :: rest) ∧
    (NestsInContainers n →
      (lines (render n)).length = n.count + (n.preorder.filter (·.kind = .container)).length ∧
      ((lines (render n)).map indentation).max? = some (2 * (n.depth - 1))) := by
  refine ⟨lines_render_eq_rows h, map_place_filter_rows 0 n, closing_rows_perm 0 n,
    fun p hp => ⟨rows_infix_of_mem_shown 0 n p hp, rows_single p.1, rows_container p.1⟩,
    fun r _ => r.exists_line_eq, fun hnests => ?_⟩
  rw [lines_render_eq_rows h, List.length_map, List.map_map]
  exact ⟨length_rows_eq_count hnests, max?_indentation hnests⟩

set_option maxRecDepth 4000 in
/-- An empty container has two lines as well, and is not the deepest node here. -/
theorem lines_render_of_page :
    let cell : Node := ⟨"4", "Cell", .text, [], none, some "x"⟩
    let group : Node := ⟨"2", "Section", .container, [.leaf "3" "Gap" .container, cell], none, none⟩
    let page : Node := ⟨"1", "Page", .container, [group, .leaf "5" "Line" .shape], none, none⟩
    (∀ x ∈ shownTexts page, '\n' ∉ x.toList) ∧ NestsInContainers page ∧
      (rows 0 page).map Row.line = ["<div class=\"page\">", "  <div class=\"section\">",
        "    <div class=\"gap\">", "    </div>", "    <span class=\"cell\">x</span>", "  </div>",
        "  <div class=\"line\"></div>", "</div>"] ∧
      lines (render page) = (rows 0 page).map Row.line ∧ page.count = 5 ∧ page.depth = 3 ∧
      (lines (render page)).length = 5 + 3 ∧
      ((lines (render page)).map indentation).max? = some 4 := by
  intro cell group page
  have hlines : ∀ x ∈ shownTexts page, '\n' ∉ x.toList := by decide
  have hnests : NestsInContainers page := by
    simp [NestsInContainers, page, group, cell, Node.leaf, Node.preorder, Node.preorderAll]
  obtain ⟨hrows, -, -, -, -, hcounts⟩ := lines_render_by_level page hlines
  obtain ⟨hlength, hwidest⟩ := hcounts hnests
  exact ⟨hlines, hnests, by decide +kernel, hrows, rfl, rfl, hlength, hwidest⟩

end DesignCompiler.Component.Template
