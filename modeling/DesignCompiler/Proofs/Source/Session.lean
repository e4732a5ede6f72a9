import DesignCompiler.Proofs.Source.Request
import Mathlib.Data.List.Induction

set_option autoImplicit false

namespace DesignCompiler

namespace Step

/-- What a step asks the source for: a fetch asks for its locator, a URL for the one it names, if it
names one, and a request for that of its URL, if nothing is missing. -/
def asks? : Step → Option Locator
  | .fetch locator => some locator
  | .fetchUrl url => (Locator.ofUrl url).toOption
  | .handle request => request.locator?
  | .handleText text => (Request.ofText text).toOption.bind Request.locator?
  | _ => none

def installs? : Step → Option Source
  | .install source => some source
  | _ => none

def pins? : Step → Option String
  | .pin fileKey => some fileKey
  | _ => none

def turn (source : Source) : Step → Source
  | .install next => next
  | .pin fileKey => source.pin fileKey
  | _ => source

end Step

def Answer.ofResult : Except RequestError Reply → Answer
  | .error cause => .noReply cause
  | .ok given => .reply given

def Answer.ofTextResult : Except RequestError Reply → Answer
  | .error cause => .noReply cause
  | .ok given => .replyText given.toText

theorem Source.pin_pin (source : Source) (first last : String) :
    (source.pin first).pin last = source.pin last := by
  cases source <;> rfl

namespace Session

def answerOf (source : Source) (step : Step) : Answer := ((Session.step step).run ⟨source, []⟩).1

theorem step_handle {s : Session} {r : Request} {result : Except RequestError Reply}
    {asked : List Locator} (h : r.Answered s.source.fetch result asked) :
    (step (.handle r)).run s = (.ofResult result, { s with asked := s.asked ++ asked }) := by
  have hrun : (r.handle fetch).run s = pure (result, { s with asked := s.asked ++ asked }) :=
    h.handle
  simp only [step, StateT.run_bind, hrun, pure_bind]
  cases result <;> rfl

theorem step_handleText {s : Session} {text : String} {r : Request}
    {result : Except RequestError Reply} {asked : List Locator} (htext : Request.ofText text = .ok r)
    (h : r.Answered s.source.fetch result asked) :
    (step (.handleText text)).run s =
      (.ofTextResult result, { s with asked := s.asked ++ asked }) := by
  have hrun : (r.handle fetch).run s = pure (result, { s with asked := s.asked ++ asked }) :=
    h.handle
  simp only [step, htext, StateT.run_bind, hrun, pure_bind]
  cases result <;> rfl

theorem run_step (s : Session) (st : Step) :
    (step st).run s =
      (answerOf s.source st, ⟨st.turn s.source, s.asked ++ st.asks?.toList⟩) := by
  rw [answerOf]
  cases st with
  | install source => simp [step, Step.turn, Step.asks?]; rfl
  | pin fileKey => simp [step, Step.turn, Step.asks?]; rfl
  | fetch locator => rfl
  | fetchUrl url =>
    cases h : Locator.ofUrl url with
    | error cause => simp [step, Step.turn, Step.asks?, h, Except.toOption]; rfl
    | ok locator => simp [step, Step.turn, Step.asks?, h, Except.toOption]; rfl
  | handle r =>
    obtain ⟨result, asked, h⟩ := r.exists_answered s.source.fetch
    rw [step_handle h, step_handle (s := ⟨s.source, []⟩) h, h.asked_eq]
    rfl
  | handleText text =>
    cases ht : Request.ofText text with
    | error cause => simp [step, Step.turn, Step.asks?, ht, Except.toOption]; rfl
    | ok r =>
      obtain ⟨result, asked, h⟩ := r.exists_answered s.source.fetch
      rw [step_handleText ht h, step_handleText (s := ⟨s.source, []⟩) ht h, h.asked_eq]
      simp [Step.turn, Step.asks?, ht, Except.toOption]

theorem run_cons (st : Step) (rest : List Step) (s : Session) :
    (run (st :: rest)).run s =
      (((step st).run s).1 :: ((run rest).run ((step st).run s).2).1,
        ((run rest).run ((step st).run s).2).2) := by
  simp only [run, List.mapM_cons, StateT.run_bind]
  rfl

theorem run_append (first rest : List Step) (s : Session) :
    (run (first ++ rest)).run s =
      (((run first).run s).1 ++ ((run rest).run ((run first).run s).2).1,
        ((run rest).run ((run first).run s).2).2) := by
  induction first generalizing s with
  | nil => rfl
  | cons st first ih => simp only [List.cons_append, run_cons, ih]

theorem length_run (steps : List Step) (s : Session) :
    ((run steps).run s).1.length = steps.length := by
  induction steps generalizing s with
  | nil => rfl
  | cons st rest ih => simp only [run_cons, List.length_cons, ih]

def answers (steps : List Step) : List Answer := ((run steps).run {}).1

def after (steps : List Step) : Session := ((run steps).run {}).2

theorem after_append_singleton (steps : List Step) (st : Step) :
    after (steps ++ [st]) =
      ⟨st.turn (after steps).source, (after steps).asked ++ st.asks?.toList⟩ := by
  rw [after, run_append, run_cons, run_step]
  rfl

theorem getElem?_answers (before rest : List Step) (st : Step) :
    (answers (before ++ st :: rest))[before.length]? =
      some (answerOf (after before).source st) := by
  have hlength := length_run before {}
  rw [answers, run_append, run_cons, run_step, List.getElem?_append_right (by omega), hlength]
  simp [after]

theorem asked_after (steps : List Step) : (after steps).asked = steps.filterMap Step.asks? := by
  induction steps using List.reverseRecOn with
  | nil => rfl
  | append_singleton steps st ih =>
    rw [after_append_singleton, List.filterMap_append, ← ih]
    cases h : st.asks? <;> simp [h]

theorem fetches_after (steps : List Step) :
    (after steps).fetches = steps.countP (·.asks?.isSome) := by
  rw [fetches, asked_after, List.length_filterMap_eq_countP]

/-- The source installed last, with the last pin since. -/
def standing (steps : List Step) : Source :=
  let newest := steps.reverse
  let source := (newest.findSome? Step.installs?).getD .empty
  match (newest.takeWhile (·.installs?.isNone)).findSome? Step.pins? with
  | none => source
  | some fileKey => source.pin fileKey

theorem standing_append_singleton (steps : List Step) (st : Step) :
    standing (steps ++ [st]) = st.turn (standing steps) := by
  simp only [standing, List.reverse_append, List.reverse_singleton, List.singleton_append,
    List.findSome?_cons, List.takeWhile_cons]
  cases st with
  | install source => rfl
  | pin fileKey =>
    simp only [Step.installs?, Option.isNone_none, if_true, List.findSome?_cons, Step.pins?,
      Step.turn]
    split
    · rfl
    · rw [Source.pin_pin]
  | _ => rfl

theorem source_after (steps : List Step) : (after steps).source = standing steps := by
  induction steps using List.reverseRecOn with
  | nil => rfl
  | append_singleton steps st ih => rw [after_append_singleton, standing_append_singleton, ← ih]

theorem answerOf_handle {source : Source} {r : Request} {result : Except RequestError Reply}
    {asked : List Locator} (h : r.Answered source.fetch result asked) :
    answerOf source (.handle r) = .ofResult result := by
  rw [answerOf, step_handle (s := ⟨source, []⟩) h]

/-- The requests of a run. Each is answered by the rules for the source that stands, and asks it at
most once, for the locator of its URL, which takes a URL that names a node and a name. What was
asked for in all is what the steps ask for, and an answer depends on its step and the standing
source. -/
theorem requests_of_run :
    (∀ (before rest : List Step) (r : Request), ∃ result asked,
      r.Answered (standing before).fetch result asked ∧
      (answers (before ++ .handle r :: rest))[before.length]? = some (.ofResult result) ∧
      (after (before ++ [.handle r])).asked = (after before).asked ++ asked ∧
      asked.length ≤ 1 ∧
      (∀ l, asked = [l] ↔ ∃ url name, Request.given? r.url = some url ∧
        Request.given? r.name = some name ∧ Locator.ofUrl url = .ok l) ∧
      (asked = [] ↔ ∃ e, result = .error e ∧ e.origin = .request) ∧
      ((∃ l cause, asked = [l] ∧ (standing before).fetch l = .error cause) ↔
        ∃ e, result = .error e ∧ e.origin = .source)) ∧
    (∀ steps : List Step, (after steps).asked = steps.filterMap Step.asks? ∧
      (after steps).fetches = steps.countP (·.asks?.isSome)) ∧
    ∀ (before rest other more : List Step) (st : Step), standing before = standing other →
      (answers (before ++ st :: rest))[before.length]? =
        (answers (other ++ st :: more))[other.length]? := by
  refine ⟨fun before rest r => ?_, fun steps => ⟨asked_after steps, fetches_after steps⟩,
    fun before rest other more st h => ?_⟩
  · obtain ⟨result, asked, h⟩ := r.exists_answered (standing before).fetch
    refine ⟨result, asked, h, ?_, ?_, h.length_asked, h.asked_iff, h.origin_request_iff,
      h.origin_source_iff⟩
    · rw [getElem?_answers, source_after, answerOf_handle h]
    · rw [after_append_singleton, h.asked_eq]
      rfl
  · rw [getElem?_answers, getElem?_answers, source_after, source_after, h]

/-- What came before the source was installed and pinned does not show in an answer. -/
theorem requests_of_pinned_response :
    let request : Request := ⟨some " https://www.figma.com/file/K/Card?node-id=1-2\n", some "Card"⟩
    let saved : Source := .saved ⟨"\x7b\"nodes\":null\x7d", none⟩
    let before : List Step := [.install .empty, .fetchUrl "", .install saved, .pin "L", .pin "K"]
    let other : List Step := [.handle request, .pin "M", .install saved, .handle request, .pin "K"]
    standing before = standing other ∧
      (answers (before ++ [.handle request]))[5]? =
        (answers (other ++ [.handle request, .pin "L"]))[5]? := by
  intro request saved before other
  have hstanding : standing before = standing other := rfl
  exact ⟨hstanding, requests_of_run.2.2 before [] other [.pin "L"] (.handle request) hstanding⟩

end Session
end DesignCompiler
