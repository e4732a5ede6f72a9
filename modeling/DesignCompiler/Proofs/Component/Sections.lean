import DesignCompiler.Proofs.Component.Readback
import DesignCompiler.Proofs.Component.Script
import DesignCompiler.Proofs.Component.StyleSheet
import Mathlib.Logic.ExistsUnique

set_option autoImplicit false

/-!
# The boundaries of a document

A document is its sections with fixed tags between them, and the template holds texts as they are
given, closing tags included. It is read from its end: the style sheet has no `<` and the script has
a single one, so that the last places of `<` in the document are known, and what is in front of them
is the template.
-/
namespace DesignCompiler.Component

theorem append_cons_inj_of_not_mem_right {c : Char} {as bs r s : List Char} (hr : c ∉ r)
    (hs : c ∉ s) (h : as ++ c :: r = bs ++ c :: s) : as = bs ∧ r = s := by
  have hrev := congrArg List.reverse h
  simp only [List.reverse_append, List.reverse_cons, List.append_assoc,
    List.singleton_append] at hrev
  obtain ⟨hrs, has⟩ :=
    Template.append_cons_inj_of_not_mem (by simpa using hr) (by simpa using hs) hrev
  exact ⟨List.reverse_inj.1 has, List.reverse_inj.1 hrs⟩

theorem Sections.eq_of_parts {s t : Sections} (htemplate : s.template = t.template)
    (hscript : s.script = t.script) (hstyle : s.style = t.style) : s = t := by
  obtain ⟨template, script, style⟩ := s
  obtain ⟨template', script', style'⟩ := t
  rw [Sections.mk.injEq]
  exact ⟨htemplate, hscript, hstyle⟩

/-- The sections whose ends can be found from the end of a document. -/
structure Sections.Bounded (s : Sections) : Prop where
  style : '<' ∉ s.style.toList
  script : ∃ before after : List Char, '<' ∉ before ∧ '<' ∉ after ∧
    s.script.toList = before ++ '<' :: after

theorem bounded_compile (root : Node) (name : String) : (compile root name).Bounded where
  style := StyleSheet.not_mem_render root
  script := by
    refine ⟨((if Script.ShowsKit root then Script.kitImport else "") ++ "\n\ndefineProps").toList,
      ("\x7b\n" ++ (if Script.ShowsText root then Script.textProp else "") ++ "\n\x7d>();").toList,
      ?_, ?_, ?_⟩
    · split <;> decide
    · split <;> decide
    · rw [compile, Script.render_eq]
      simp

theorem Sections.toList_document (s : Sections) {before after : List Char}
    (hscript : s.script.toList = before ++ '<' :: after) :
    s.document.toList =
      "<template>\n".toList ++ s.template.toList ++ "\n</template>\n\n".toList ++
        '<' :: ("script setup lang=\"ts\">\n".toList ++ before) ++ '<' :: (after ++ "\n".toList) ++
        '<' :: "/script>\n\n".toList ++
        '<' :: ("style lang=\"scss\" scoped>\n".toList ++ (s.style.toList ++ "\n".toList)) ++
        '<' :: "/style>".toList := by
  have hbefore : "\n</template>\n\n<script setup lang=\"ts\">\n".toList =
      "\n</template>\n\n".toList ++ '<' :: "script setup lang=\"ts\">\n".toList := by decide
  have hbetween : "\n</script>\n\n<style lang=\"scss\" scoped>\n".toList =
      "\n".toList ++ '<' :: ("/script>\n\n".toList ++
        '<' :: "style lang=\"scss\" scoped>\n".toList) := by decide
  have hend : "\n</style>".toList = "\n".toList ++ '<' :: "/style>".toList := by decide
  unfold Sections.document
  simp only [String.toList_append, hscript, hbefore, hbetween, hend, List.append_assoc,
    List.cons_append]

/-- Each `<` that is the last of what is left gives one more part of the document. -/
theorem Sections.Bounded.eq_of_document {s t : Sections} (hs : s.Bounded) (ht : t.Bounded)
    (h : s.document = t.document) : s = t := by
  obtain ⟨before, after, hbefore, hafter, hscript⟩ := hs.script
  obtain ⟨before', after', hbefore', hafter', hscript'⟩ := ht.script
  have hdoc := congrArg String.toList h
  rw [s.toList_document hscript, t.toList_document hscript'] at hdoc
  -- Cut from the right: behind the last `<` is the end tag, behind the one before it the style.
  obtain ⟨hdoc, -⟩ := append_cons_inj_of_not_mem_right (by decide) (by decide) hdoc
  obtain ⟨hdoc, hstyle⟩ := append_cons_inj_of_not_mem_right
    (by simp [hs.style]) (by simp [ht.style]) hdoc
  obtain ⟨hdoc, -⟩ := append_cons_inj_of_not_mem_right (by decide) (by decide) hdoc
  obtain ⟨hdoc, hend⟩ := append_cons_inj_of_not_mem_right
    (by simp [hafter]) (by simp [hafter']) hdoc
  obtain ⟨hdoc, hstart⟩ := append_cons_inj_of_not_mem_right
    (by simp [hbefore]) (by simp [hbefore']) hdoc
  have htemplate := List.append_cancel_left (List.append_cancel_right hdoc)
  have hstyle := List.append_cancel_right (List.append_cancel_left hstyle)
  rw [List.append_cancel_left hstart, List.append_cancel_right hend, ← hscript'] at hscript
  exact Sections.eq_of_parts (String.toList_inj.1 htemplate) (String.toList_inj.1 hscript)
    (String.toList_inj.1 hstyle)

/-- A document tells its sections, whatever the texts and names in its design. -/
theorem generate_eq_iff :
    (∀ (t u : Node) (name other : String), generate t name = generate u other ↔
      (compile t name).template = (compile u other).template ∧
      (compile t name).script = (compile u other).script ∧
      (compile t name).style = (compile u other).style) ∧
    ∀ (t : Node) (name : String),
      ∃! s : Sections, (∃ u other, s = compile u other) ∧ s.document = generate t name := by
  refine ⟨fun t u name other => ⟨fun h => ?_, fun ⟨htemplate, hscript, hstyle⟩ => ?_⟩,
    fun t name => ⟨compile t name, ⟨⟨t, name, rfl⟩, rfl⟩, ?_⟩⟩
  · rw [(bounded_compile t name).eq_of_document (bounded_compile u other) h]
    exact ⟨rfl, rfl, rfl⟩
  · rw [generate, generate, Sections.eq_of_parts htemplate hscript hstyle]
  · rintro _ ⟨⟨u, other, rfl⟩, h⟩
    exact (bounded_compile u other).eq_of_document (bounded_compile t name) h

end DesignCompiler.Component
