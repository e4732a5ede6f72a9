import DesignCompiler.Source.Session

set_option autoImplicit false

namespace DesignCompiler

namespace Request

/-- What a field of a request gives: its text without the white space around it, if that leaves
something. -/
def given? (value : Option String) : Option String :=
  (value.map fun text => String.ofList (Text.trim text.toList)).filter (· ≠ "")

theorem required_eq (value : Option String) (key : String) :
    required value key = (given? value).elim (.error (.missingInput key)) .ok := by
  cases value with
  | none => rfl
  | some text =>
    simp only [required, given?, Option.map_some]
    cases Text.trim text.toList with
    | nil => rfl
    | cons c cs =>
      have hne : String.ofList (c :: cs) ≠ "" := fun h => by simpa using congrArg String.toList h
      rw [Option.filter_some, if_pos (by simp)]
      rfl

/-- The rules by which a request is answered, with the locators that are asked for. A rule stands
for what the rules before it leave over. -/
inductive Answered (fetch : Locator → Except FetchError Node) (r : Request) :
    Except RequestError Reply → List Locator → Prop where
  | noUrl (hurl : given? r.url = none) :
      Answered fetch r (.error (.missingInput "figmaUrl")) []
  | noName {url : String} (hurl : given? r.url = some url) (hname : given? r.name = none) :
      Answered fetch r (.error (.missingInput "componentName")) []
  | noLocator {url name : String} {cause : LocatorError} (hurl : given? r.url = some url)
      (hname : given? r.name = some name) (hlocator : Locator.ofUrl url = .error cause) :
      Answered fetch r (.error (.locator cause)) []
  | noDesign {url name : String} {locator : Locator} {cause : FetchError}
      (hurl : given? r.url = some url) (hname : given? r.name = some name)
      (hlocator : Locator.ofUrl url = .ok locator) (hfetch : fetch locator = .error cause) :
      Answered fetch r (.error (.fetch cause)) [locator]
  | reply {url name : String} {locator : Locator} {root : Node}
      (hurl : given? r.url = some url) (hname : given? r.name = some name)
      (hlocator : Locator.ofUrl url = .ok locator) (hfetch : fetch locator = .ok root) :
      Answered fetch r (.ok ⟨Component.generate root name⟩) [locator]

def locator? (r : Request) : Option Locator :=
  match given? r.url, given? r.name with
  | some url, some _ => (Locator.ofUrl url).toOption
  | _, _ => none

theorem locator?_eq_some {r : Request} {l : Locator} :
    r.locator? = some l ↔ ∃ url name, given? r.url = some url ∧ given? r.name = some name ∧
      Locator.ofUrl url = .ok l := by
  rw [locator?]
  cases hurl : given? r.url with
  | none => simp
  | some url =>
    cases hname : given? r.name with
    | none => simp
    | some name => cases hl : Locator.ofUrl url <;> simp [Except.toOption, hl]

variable {fetch : Locator → Except FetchError Node} {r : Request}
  {result : Except RequestError Reply} {asked : List Locator}

theorem exists_answered (fetch : Locator → Except FetchError Node) (r : Request) :
    ∃ result asked, Answered fetch r result asked := by
  cases hurl : given? r.url with
  | none => exact ⟨_, _, .noUrl hurl⟩
  | some url =>
    cases hname : given? r.name with
    | none => exact ⟨_, _, .noName hurl hname⟩
    | some name =>
      cases hlocator : Locator.ofUrl url with
      | error cause => exact ⟨_, _, .noLocator hurl hname hlocator⟩
      | ok locator =>
        cases hfetch : fetch locator with
        | error cause => exact ⟨_, _, .noDesign hurl hname hlocator hfetch⟩
        | ok root => exact ⟨_, _, .reply hurl hname hlocator hfetch⟩

theorem Answered.asked_eq (h : Answered fetch r result asked) : asked = r.locator?.toList := by
  cases h with
  | noUrl hurl => simp [locator?, hurl]
  | noName hurl hname => simp [locator?, hurl, hname]
  | noLocator hurl hname hlocator => simp [locator?, hurl, hname, hlocator, Except.toOption]
  | noDesign hurl hname hlocator hfetch => simp [locator?, hurl, hname, hlocator, Except.toOption]
  | reply hurl hname hlocator hfetch => simp [locator?, hurl, hname, hlocator, Except.toOption]

theorem Answered.length_asked (h : Answered fetch r result asked) : asked.length ≤ 1 := by
  rw [h.asked_eq]
  cases r.locator? <;> simp

theorem Answered.asked_iff (h : Answered fetch r result asked) (l : Locator) :
    asked = [l] ↔ ∃ url name, given? r.url = some url ∧ given? r.name = some name ∧
      Locator.ofUrl url = .ok l := by
  rw [h.asked_eq, ← locator?_eq_some]
  cases r.locator? <;> simp

theorem Answered.origin_request_iff (h : Answered fetch r result asked) :
    asked = [] ↔ ∃ e, result = .error e ∧ e.origin = .request := by
  cases h <;> simp [RequestError.origin]

theorem Answered.origin_source_iff (h : Answered fetch r result asked) :
    (∃ l cause, asked = [l] ∧ fetch l = .error cause) ↔
      ∃ e, result = .error e ∧ e.origin = .source := by
  cases h with
  | noDesign hurl hname hlocator hfetch => simp [RequestError.origin, hfetch]
  | reply hurl hname hlocator hfetch => simp [RequestError.origin, hfetch]
  | _ => simp [RequestError.origin]

theorem target_eq (r : Request) :
    r.target = match given? r.url, given? r.name with
      | none, _ => .error (.missingInput "figmaUrl")
      | some _, none => .error (.missingInput "componentName")
      | some url, some name =>
        match Locator.ofUrl url with
        | .error cause => .error (.locator cause)
        | .ok locator => .ok (locator, name) := by
  rw [target, required_eq, required_eq]
  cases given? r.url with
  | none => rfl
  | some url =>
    cases given? r.name with
    | none => rfl
    | some name =>
      simp only [Option.elim_some, bind, Except.bind]
      cases Locator.ofUrl url <;> rfl

theorem target_eq_ok_iff {l : Locator} {name : String} :
    r.target = .ok (l, name) ↔ ∃ url, given? r.url = some url ∧ given? r.name = some name ∧
      Locator.ofUrl url = .ok l := by
  rw [target_eq]
  cases given? r.url with
  | none => simp
  | some url =>
    cases given? r.name with
    | none => simp
    | some name' =>
      cases hl : Locator.ofUrl url <;> simp [hl, and_comm]

section Source

variable {σ : Type} {ask : Locator → StateM σ (Except FetchError Node)}

theorem handle_of_target_error {e : RequestError} (h : r.target = .error e) (s : σ) :
    (r.handle ask).run s = (.error e, s) := by
  rw [Request.handle, h]
  rfl

theorem handle_of_target_ok {l : Locator} {name : String} (h : r.target = .ok (l, name)) (s : σ) :
    (r.handle ask).run s =
      (match ((ask l).run s).1 with
        | .error cause => .error (.fetch cause)
        | .ok root => .ok ⟨Component.generate root name⟩, ((ask l).run s).2) := by
  rw [Request.handle, h]
  simp only [StateT.run_bind]
  cases (ask l).run s with
  | mk found s' => cases found <;> rfl

theorem handle_eq_ok_iff {reply : Reply} (s : σ) :
    ((r.handle ask).run s).1 = .ok reply ↔ ∃ l name root, r.target = .ok (l, name) ∧
      ((ask l).run s).1 = .ok root ∧ reply = ⟨Component.generate root name⟩ := by
  cases htarget : r.target with
  | error e => simp [handle_of_target_error htarget]
  | ok asked =>
    obtain ⟨l, name⟩ := asked
    rw [handle_of_target_ok htarget]
    constructor
    · intro h
      cases hfound : ((ask l).run s).1 with
      | error cause => simp [hfound] at h
      | ok root =>
        simp only [hfound] at h
        exact ⟨l, name, root, rfl, hfound, (Except.ok.inj h).symm⟩
    · rintro ⟨l, name, root, ⟨⟩, hfound, rfl⟩
      simp only [hfound]

end Source

theorem Answered.handle {s : Session} (h : Answered s.source.fetch r result asked) :
    (r.handle Session.fetch).run s = (result, { s with asked := s.asked ++ asked }) := by
  cases h with
  | noUrl hurl =>
    have ht : r.target = .error (.missingInput "figmaUrl") := by simp only [target_eq, hurl]
    rw [handle_of_target_error ht, List.append_nil]
  | noName hurl hname =>
    have ht : r.target = .error (.missingInput "componentName") := by
      simp only [target_eq, hurl, hname]
    rw [handle_of_target_error ht, List.append_nil]
  | @noLocator url name cause hurl hname hlocator =>
    have ht : r.target = .error (.locator cause) := by simp only [target_eq, hurl, hname, hlocator]
    rw [handle_of_target_error ht, List.append_nil]
  | @noDesign url name locator cause hurl hname hlocator hfetch =>
    have ht : r.target = .ok (locator, name) := by simp only [target_eq, hurl, hname, hlocator]
    rw [handle_of_target_ok ht, Session.run_fetch, hfetch]
    rfl
  | @reply url name locator root hurl hname hlocator hfetch =>
    have ht : r.target = .ok (locator, name) := by simp only [target_eq, hurl, hname, hlocator]
    rw [handle_of_target_ok ht, Session.run_fetch, hfetch]
    rfl

end Request
end DesignCompiler
