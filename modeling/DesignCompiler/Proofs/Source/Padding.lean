import DesignCompiler.Proofs.Json.Reading
import DesignCompiler.Proofs.Source.Request
import DesignCompiler.Proofs.Text.Trim
import Mathlib

set_option autoImplicit false

namespace DesignCompiler

def LocatorError.about (url : String) : LocatorError → LocatorError
  | .unparsable cause => .unparsable cause
  | .missingFileKey _ => .missingFileKey url
  | .missingNodeId _ => .missingNodeId url

theorem Component.generate_eq_generate (root : Node) (name other : String) :
    generate root name = generate root other := rfl

namespace Locator

variable {url other : String} {l : Locator}

theorem ofUrl_eq_mapError (h : Text.trim url.toList = Text.trim other.toList) :
    ofUrl url = (ofUrl other).mapError (·.about url) := by
  unfold ofUrl
  rw [h]
  cases Url.parse (Text.trim other.toList) with
  | error cause => rfl
  | ok address =>
    dsimp only
    cases fileKey? address.path with
    | none => rfl
    | some key => cases nodeId? address.query <;> rfl

theorem ofUrl_eq_ok_iff_of_trim_eq (h : Text.trim url.toList = Text.trim other.toList) :
    ofUrl url = .ok l ↔ ofUrl other = .ok l := by
  rw [ofUrl_eq_mapError h, Json.mapError_eq_ok]

theorem ofUrl_of_blank (h : Text.trim url.toList = []) :
    ofUrl url = .error (.unparsable .noScheme) := by
  unfold ofUrl
  rw [h]
  rfl

end Locator

namespace Request

def Named (r : Request) : Prop :=
  ∃ name, r.name = some name ∧ ∃ c ∈ name.toList, Text.isBlank c = false

/-- Two requests that have the same URL but for the white space around it, and both some name. -/
structure Alike (r s : Request) : Prop where
  trim_url : r.url.map (Text.trim ·.toList) = s.url.map (Text.trim ·.toList)
  named : r.Named
  other_named : s.Named

section Given

variable {url : String} {l : Locator}

theorem given?_some (text : String) :
    given? (some text) =
      if Text.trim text.toList = [] then none else some (String.ofList (Text.trim text.toList)) := by
  by_cases h : Text.trim text.toList = [] <;> simp [given?, h]

theorem given?_eq_of_trim_eq {value other : Option String}
    (h : value.map (Text.trim ·.toList) = other.map (Text.trim ·.toList)) :
    given? value = given? other := by
  have hmap (v : Option String) : v.map (fun text => String.ofList (Text.trim text.toList)) =
      (v.map (Text.trim ·.toList)).map String.ofList := by
    rw [Option.map_map]
    rfl
  rw [given?, given?, hmap, hmap, h]

theorem Named.exists_given? {r : Request} (h : r.Named) : ∃ name, given? r.name = some name := by
  obtain ⟨name, hname, c, hc, hblank⟩ := h
  have hne : Text.trim name.toList ≠ [] := by
    intro hnil
    have hc' := Text.trim_eq_nil_iff.1 hnil c hc
    rw [hblank] at hc'
    cases hc'
  rw [hname, given?_some, if_neg hne]
  exact ⟨_, rfl⟩

theorem ofUrl_given?_iff :
    (∃ taken, given? (some url) = some taken ∧ Locator.ofUrl taken = .ok l) ↔
      Locator.ofUrl url = .ok l := by
  by_cases h : Text.trim url.toList = []
  · simp [given?_some, h, Locator.ofUrl_of_blank h]
  · have htrim : Text.trim (String.ofList (Text.trim url.toList)).toList =
        Text.trim url.toList := by
      rw [String.toList_ofList, Text.trim_trim]
    simp [given?_some, h, Locator.ofUrl_eq_ok_iff_of_trim_eq htrim]

end Given

variable {r s : Request} {l : Locator}

theorem Alike.target_eq (h : r.Alike s) : r.target.map Prod.fst = s.target.map Prod.fst := by
  obtain ⟨name, hname⟩ := h.named.exists_given?
  obtain ⟨other, hother⟩ := h.other_named.exists_given?
  simp only [Request.target_eq, given?_eq_of_trim_eq h.trim_url, hname, hother]
  cases given? s.url with
  | none => rfl
  | some url =>
    dsimp only
    cases Locator.ofUrl url <;> rfl

theorem handle_congr {m : Type → Type} [Monad m] {fetch : Locator → m (Except FetchError Node)}
    (h : r.target.map Prod.fst = s.target.map Prod.fst) : r.handle fetch = s.handle fetch := by
  unfold Request.handle
  cases hr : r.target with
  | error e =>
    cases hs : s.target with
    | error e' =>
      rw [hr, hs] at h
      obtain rfl : e = e' := Except.error.inj h
      rfl
    | ok asked =>
      rw [hr, hs] at h
      cases h
  | ok asked =>
    cases hs : s.target with
    | error e' =>
      rw [hr, hs] at h
      cases h
    | ok asked' =>
      rw [hr, hs] at h
      obtain ⟨l, name⟩ := asked
      obtain ⟨l', name'⟩ := asked'
      obtain rfl : l = l' := Except.ok.inj h
      simp only [fun root => Component.generate_eq_generate root name name']

theorem Alike.handle_eq {m : Type → Type} [Monad m] (h : r.Alike s)
    (fetch : Locator → m (Except FetchError Node)) : r.handle fetch = s.handle fetch :=
  handle_congr h.target_eq

theorem Named.target_eq_ok_iff {url : String} (h : r.Named) (hurl : r.url = some url) :
    (∃ name, r.target = .ok (l, name)) ↔ Locator.ofUrl url = .ok l := by
  obtain ⟨name, hname⟩ := h.exists_given?
  rw [← ofUrl_given?_iff]
  simp [Request.target_eq_ok_iff, hurl, hname]

/-- A request with a name is answered by its URL alone, and by the URL without the white space
around it: requests that are alike get the same answer of every source, and there is a reply exactly
if the URL as it is given names a node whose design is delivered. -/
theorem handle_by_url_alone :
    (∀ (m : Type → Type) [Monad m] (fetch : Locator → m (Except FetchError Node)) (r s : Request),
      r.Alike s → r.handle fetch = s.handle fetch) ∧
    ∀ (σ : Type) (ask : Locator → StateM σ (Except FetchError Node)) (state : σ) (r : Request)
      (url : String), r.url = some url → r.Named → ∀ reply : Reply,
        ((r.handle ask).run state).1 = .ok reply ↔
          ∃ l root, Locator.ofUrl url = .ok l ∧ ((ask l).run state).1 = .ok root ∧
            ∀ name, reply = ⟨Component.generate root name⟩ := by
  refine ⟨fun m _ fetch r s h => h.handle_eq fetch, ?_⟩
  intro σ ask state r url hurl hnamed reply
  rw [handle_eq_ok_iff state]
  constructor
  · rintro ⟨l, name, root, htarget, hfound, rfl⟩
    have hreply (other : String) :=
      congrArg Reply.mk (Component.generate_eq_generate root name other)
    exact ⟨l, root, (hnamed.target_eq_ok_iff hurl).1 ⟨name, htarget⟩, hfound, hreply⟩
  · rintro ⟨l, root, hl, hfound, hreply⟩
    obtain ⟨name, htarget⟩ := (hnamed.target_eq_ok_iff hurl).2 hl
    exact ⟨l, name, root, htarget, hfound, hreply name⟩

set_option maxRecDepth 4000 in
/-- Neither the ideographic space nor the line end shows, nor the other name; the source would not
deliver the design a second time. -/
theorem handle_by_url_alone_of_spaces :
    let ask : Locator → StateM Nat (Except FetchError Node) := fun l asked =>
      (if asked = 0 then .ok (.leaf l.nodeId "B" .text) else .error (.notFound l.fileKey l.nodeId),
        asked + 1)
    let url := "\u3000a:/file/K?node-id=1-2"
    let r : Request := ⟨some url, some "A"⟩
    let s : Request := ⟨some "a:/file/K?node-id=1-2\u0085\n", some " Card "⟩
    r.Alike s ∧ r.handle ask = s.handle ask ∧ r.url = some url ∧ r.Named ∧
      ((s.handle ask).run 0).1 = .ok ⟨Component.generate (.leaf "1:2" "B" .text) "Card"⟩ := by
  intro ask url r s
  have hnamed : r.Named := ⟨"A", rfl, 'A', by decide, by decide⟩
  have halike : r.Alike s := ⟨by decide +kernel, hnamed, ⟨" Card ", rfl, 'C', by decide, by decide⟩⟩
  have hsame : r.handle ask = s.handle ask := handle_by_url_alone.1 _ ask r s halike
  have hlocator : Locator.ofUrl url = .ok ⟨"K", "1:2"⟩ := by cbv
  refine ⟨halike, hsame, rfl, hnamed, ?_⟩
  rw [← hsame]
  exact (handle_by_url_alone.2 Nat ask 0 r url rfl hnamed _).2
    ⟨⟨"K", "1:2"⟩, .leaf "1:2" "B" .text, hlocator, rfl, fun _ => rfl⟩

end Request

inductive Step.Alike : Step → Step → Prop where
  | same (st : Step) : Alike st st
  | handle {r s : Request} (h : r.Alike s) : Alike (.handle r) (.handle s)
  | handleText {text other : String} {r s : Request} (htext : Request.ofText text = .ok r)
      (hother : Request.ofText other = .ok s) (h : r.Alike s) :
      Alike (.handleText text) (.handleText other)

namespace Session

theorem step_eq_of_alike {st other : Step} (h : st.Alike other) : step st = step other := by
  cases h with
  | same => rfl
  | handle h => simp only [step, h.handle_eq]
  | handleText htext hother h => simp only [step, htext, hother, h.handle_eq]

/-- A whole session answers as it would to requests that are alike, and it asks for the same. -/
theorem run_eq_of_alike {steps others : List Step} (h : List.Forall₂ Step.Alike steps others) :
    run steps = run others := by
  induction h with
  | nil => rfl
  | cons hstep _ ih =>
    simp only [run] at ih
    simp only [run, List.mapM_cons, step_eq_of_alike hstep, ih]

end Session
end DesignCompiler
