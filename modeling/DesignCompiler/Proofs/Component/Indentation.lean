import DesignCompiler.Component.Template
import DesignCompiler.Proofs.Component.ClassName
import DesignCompiler.Text.Split
import Mathlib.Logic.Function.Iterate

set_option autoImplicit false

namespace DesignCompiler

namespace Text

/-- Put two spaces in front of every line. -/
def pad (s : String) : String :=
  String.ofList (joinWith '\n' ((splitOn (· = '\n') s.toList).map (' ' :: ' ' :: ·)))

theorem joinWith_append_cons (separator : Char) (as bs : List Char) (parts : List (List Char)) :
    joinWith separator ((as ++ bs) :: parts) = as ++ joinWith separator (bs :: parts) := by
  cases parts with
  | nil => rfl
  | cons part parts => simp [joinWith]

theorem joinWith_nil_cons (separator : Char) (parts : List (List Char)) (h : parts ≠ []) :
    joinWith separator ([] :: parts) = separator :: joinWith separator parts := by
  cases parts with
  | nil => exact absurd rfl h
  | cons part parts => rfl

theorem joinWith_map_splitOn (m cs : List Char) :
    joinWith '\n' ((splitOn (· = '\n') cs).map (m ++ ·)) = indent m cs := by
  induction cs with
  | nil => rfl
  | cons c cs ih =>
    by_cases h : c = '\n'
    · have hne : (splitOn (· = '\n') cs).map (m ++ ·) ≠ [] := by simp [splitOn_ne_nil]
      simp only [splitOn, h, decide_true, ite_true, List.map_cons]
      rw [joinWith_append_cons, joinWith_nil_cons _ _ hne, ih]
      simp [indent, hang]
    · cases hs : splitOn (· = '\n') cs with
      | nil => exact absurd hs (splitOn_ne_nil _ cs)
      | cons part parts =>
        rw [hs, List.map_cons, joinWith_append_cons, indent] at ih
        have hh := List.append_cancel_left ih
        simp only [splitOn, h, decide_false, hs, Bool.false_eq_true, ite_false, List.map_cons]
        change joinWith '\n' ((m ++ ([c] ++ part)) :: _) = _
        rw [joinWith_append_cons, joinWith_append_cons, hh]
        simp [indent, hang, h]

theorem toList_pad (s : String) : (pad s).toList = indent [' ', ' '] s.toList := by
  rw [pad, String.toList_ofList]
  exact joinWith_map_splitOn [' ', ' '] s.toList

theorem toList_iterate_pad (depth : Nat) (s : String) :
    (pad^[depth] s).toList = (indent [' ', ' '])^[depth] s.toList := by
  induction depth generalizing s with
  | zero => rfl
  | succ depth ih => rw [Function.iterate_succ_apply, ih, toList_pad, ← Function.iterate_succ_apply]

theorem not_mem_margin (depth : Nat) : '\n' ∉ margin depth := by
  simp [margin]

theorem hang_hang (m p cs : List Char) (hp : '\n' ∉ p) :
    hang m (hang p cs) = hang (m ++ p) cs := by
  induction cs with
  | nil => rfl
  | cons c cs ih =>
    by_cases h : c = '\n'
    · simp [hang, h, hang_append, hang_eq_self m p hp, ih]
    · simp [hang, h, ih]

end Text

namespace Component.Template
open Text

def element (depth : Nat) (tag cls : String) (body : List Char) : List Char :=
  margin depth ++ (openTag tag cls).toList ++ body ++ (closeTag tag).toList

mutual

def markup (depth : Nat) : Node → List Char
  | ⟨_, name, .container, children, _, _⟩ =>
    element depth "div" (className name) (markupAll (depth + 1) children ++ '\n' :: margin depth)
  | ⟨_, name, .text, _, _, text⟩ =>
    element depth "span" (className name) (hang (margin depth) (text.getD "").toList)
  | ⟨_, name, _, _, _, _⟩ => element depth "div" (className name) []

def markupAll (depth : Nat) : List Node → List Char
  | [] => []
  | n :: ns => '\n' :: (markup depth n ++ markupAll depth ns)

end

mutual

theorem toList_emit (out : String) (depth : Nat) :
    (n : Node) → (emit out depth n).toList = out.toList ++ markup depth n
  | ⟨_, name, .container, children, _, _⟩ => by
    simp [emit, markup, element, marginText, toList_emitAll _ (depth + 1) children]
  | ⟨_, name, .text, _, _, text⟩ => by simp [emit, markup, element, marginText, hangText]
  | ⟨_, name, .shape, _, _, _⟩ => by simp [emit, markup, element, marginText]
  | ⟨_, name, .other, _, _, _⟩ => by simp [emit, markup, element, marginText]

theorem toList_emitAll (out : String) (depth : Nat) :
    (ns : List Node) → (emitAll out depth ns).toList = out.toList ++ markupAll depth ns
  | [] => by simp [emitAll, markupAll]
  | n :: ns => by
    rw [emitAll, markupAll, toList_emitAll _ depth ns, toList_emit _ depth n]
    simp

end

theorem toList_render (n : Node) : (render n).toList = markup 0 n := by
  rw [render, toList_emit]
  rfl

theorem hang_append_of_not_mem (m as bs : List Char) (h : '\n' ∉ as) :
    hang m (as ++ bs) = as ++ hang m bs := by
  rw [hang_append, hang_eq_self m as h]

theorem indent_element (depth : Nat) (tag name : String) (body : List Char)
    (h : '\n' ∉ tag.toList) :
    indent [' ', ' '] (element depth tag (className name) body) =
      element (depth + 1) tag (className name) (hang [' ', ' '] body) := by
  have hm : '\n' ∉ margin depth := not_mem_margin depth
  have ho : '\n' ∉ (openTag tag (className name)).toList := by
    have hc := not_mem_className name '\n' rfl
    simp [openTag, h, hc]
  have hc : '\n' ∉ (closeTag tag).toList := by simp [closeTag, h]
  rw [indent, element, element, margin_succ]
  simp only [List.append_assoc, hang_append_of_not_mem _ _ _ hm, hang_append_of_not_mem _ _ _ ho]
  rw [hang_append, hang_eq_self _ _ hc]
  rfl

mutual

theorem indent_markup (depth : Nat) :
    (n : Node) → indent [' ', ' '] (markup depth n) = markup (depth + 1) n
  | ⟨_, name, .container, children, _, _⟩ => by
    rw [markup, markup, indent_element _ _ _ _ (by decide), hang_append, hang_markupAll]
    simp [hang, hang_eq_self _ _ (not_mem_margin depth), margin_succ]
  | ⟨_, name, .text, _, _, text⟩ => by
    rw [markup, markup, indent_element _ _ _ _ (by decide), hang_hang _ _ _ (not_mem_margin depth),
      margin_succ]
    rfl
  | ⟨_, name, .shape, _, _, _⟩ => by
    simp only [markup]
    exact indent_element depth "div" name [] (by decide)
  | ⟨_, name, .other, _, _, _⟩ => by
    simp only [markup]
    exact indent_element depth "div" name [] (by decide)

theorem hang_markupAll (depth : Nat) :
    (ns : List Node) → hang [' ', ' '] (markupAll depth ns) = markupAll (depth + 1) ns
  | [] => by rw [markupAll, markupAll]; rfl
  | n :: ns => by
    rw [markupAll, markupAll, ← indent_markup depth n, ← hang_markupAll depth ns, indent]
    simp [hang, hang_append]

end

theorem iterate_indent_markup (depth : Nat) (n : Node) :
    (indent [' ', ' '])^[depth] (markup 0 n) = markup depth n := by
  induction depth with
  | zero => rfl
  | succ depth ih => rw [Function.iterate_succ_apply', ih, indent_markup]

theorem markupAll_eq_flatMap (depth : Nat) (ns : List Node) :
    markupAll depth ns = ns.flatMap fun n => '\n' :: markup depth n := by
  induction ns with
  | nil => rw [markupAll]; rfl
  | cons n ns ih => rw [markupAll, ih, List.flatMap_cons]; rfl

theorem render_container (id name : String) (children : List Node) (style : Option Style)
    (text : Option String) :
    render ⟨id, name, .container, children, style, text⟩ =
      "<div class=\"" ++ className name ++ "\">" ++
        String.join (children.map fun c => "\n" ++ pad (render c)) ++ "\n" ++ "</div>" := by
  apply String.toList_inj.1
  rw [toList_render, markup, markupAll_eq_flatMap]
  have hpad (c : Node) : (pad (render c)).toList = markup 1 c := by
    rw [toList_pad, toList_render, indent_markup]
  simp [element, margin, openTag, closeTag, String.toList_join, List.flatMap_map, hpad]

theorem emit_eq_iterate_pad (n : Node) (depth : Nat) (out : String) :
    emit out depth n = out ++ pad^[depth] (render n) := by
  apply String.toList_inj.1
  rw [toList_emit, String.toList_append, toList_iterate_pad, toList_render, iterate_indent_markup]

/-- The emitter with its depth and its accumulator does what indenting from the inside out does. -/
theorem emit_compositional :
    (∀ (n : Node) (depth : Nat) (out : String), emit out depth n = out ++ pad^[depth] (render n)) ∧
    ∀ (id name : String) (children : List Node) (style : Option Style) (text : Option String),
      render ⟨id, name, .container, children, style, text⟩ =
        "<div class=\"" ++ className name ++ "\">" ++
          String.join (children.map fun c => "\n" ++ pad (render c)) ++ "\n" ++ "</div>" :=
  ⟨emit_eq_iterate_pad, render_container⟩

end Component.Template
end DesignCompiler
