import DesignCompiler.Proofs.Design.Response
import DesignCompiler.Proofs.Source.Session

set_option autoImplicit false

namespace DesignCompiler
open Json

namespace Request

theorem put_eq_ok {f : Field} {d e : Draft} {o : Outline} : Draft.put f d o = .ok e ↔
    ∃ x, Outline.readOption Outline.readString o = .ok x ∧
      (match f with
        | .url => { d with url := some x }
        | .name => { d with name := some x }) = e := by
  cases f <;> simp [Draft.put, bind_eq_ok, pure, Except.pure]

theorem ofText_toText (r : Request) : ofText r.toText = .ok r := by
  obtain ⟨start, members, hspells, hall⟩ :=
    Outline.spells_writeObject Outline.spells_writeOption (urlKey, r.url) [(nameKey, r.name)] []
  obtain ⟨⟨k₁, o₁⟩, rest, ⟨hk₁, ho₁⟩, hrest, rfl⟩ := List.forall₂_cons_right_iff.1 hall
  obtain ⟨⟨k₂, o₂⟩, rest, ⟨hk₂, ho₂⟩, hnil, rfl⟩ := List.forall₂_cons_right_iff.1 hrest
  obtain rfl := List.forall₂_nil_right_iff.1 hnil
  have hgather : form.gatherMembers Draft.put form.start [(k₁, o₁), (k₂, o₂)] =
      .ok ⟨some r.url, some r.name⟩ := by
    refine Form.gatherMembers_cons_eq_ok.2 ⟨urlKey, hk₁, .inr ⟨.url, by decide, rfl, _,
      put_eq_ok.2 ⟨r.url, ho₁, rfl⟩, ?_⟩⟩
    exact Form.gatherMembers_cons_eq_ok.2 ⟨nameKey, hk₂, .inr ⟨.name, by decide, rfl, _,
      put_eq_ok.2 ⟨r.name, ho₂, rfl⟩, rfl⟩⟩
  have hread : form.read (some Draft.put) (.object start [(k₁, o₁), (k₂, o₂)] (.closed [])) =
      .ok r :=
    Form.read_eq_ok.2 ⟨_, rfl, _, rfl, .inl ⟨start, _, [], rfl, hgather⟩⟩
  rw [List.append_nil] at hspells
  rw [ofText, toText, String.toList_ofList]
  exact readText_of_spells hspells hread

end Request

namespace Reply

theorem ofText_toText (r : Reply) : ofText r.toText = .ok r := by
  have hwrite (s : String) (rest : List Char) : ∃ o,
      Outline.Spells (writeString s.toList ++ rest) o rest ∧ o.readString = .ok s := by
    obtain ⟨o, ho, hread⟩ := Outline.spells_writeString s.toList rest
    rw [String.ofList_toList] at hread
    exact ⟨o, ho, hread⟩
  obtain ⟨start, members, hspells, hall⟩ :=
    Outline.spells_writeObject hwrite (componentKey, r.component) [] []
  obtain ⟨⟨k, o⟩, rest, ⟨hk, ho⟩, hnil, rfl⟩ := List.forall₂_cons_right_iff.1 hall
  obtain rfl := List.forall₂_nil_right_iff.1 hnil
  have hread : form.read (some fun _ _ o => some <$> o.readString)
      (.object start [(k, o)] (.closed [])) = .ok r :=
    Form.read_single_object start [] hk ho rfl
  rw [List.append_nil] at hspells
  rw [ofText, toText, String.toList_ofList]
  exact readText_of_spells hspells hread

end Reply

namespace Session

theorem body_of_step_handleText {s : Session} {text body : String}
    (h : ((step (.handleText text)).run s).1 = .replyText body) :
    ∃ request locator name root, Request.ofText text = .ok request ∧
      request.target = .ok (locator, name) ∧ s.source.fetch locator = .ok root ∧
        Reply.ofText body = .ok ⟨Component.generate root name⟩ := by
  cases htext : Request.ofText text with
  | error cause =>
    have hstep : ((step (.handleText text)).run s).1 = .noRequest cause := by
      simp only [step, htext]
      rfl
    rw [hstep] at h
    cases h
  | ok request =>
    obtain ⟨result, asked, hanswered⟩ := request.exists_answered s.source.fetch
    rw [step_handleText htext hanswered] at h
    cases hanswered with
    | @reply url name locator root hurl hname hlocator hfetch =>
      obtain rfl : Reply.toText ⟨Component.generate root name⟩ = body := Answer.replyText.inj h
      have htarget : request.target = .ok (locator, name) := by
        simp only [Request.target_eq, hurl, hname, hlocator]
      exact ⟨request, locator, name, root, rfl, htarget, hfetch, Reply.ofText_toText _⟩
    | _ => cases h

/-- What is written reads as it was: every request and every reply. A text that reads as a request,
in whatever form, is written as a text that reads alike and is then written the same. -/
theorem wire_round_trip :
    (∀ r : Request, Request.ofText r.toText = .ok r) ∧
      (∀ r : Reply, Reply.ofText r.toText = .ok r) ∧
        (∀ text written, (Request.ofText text).map Request.toText = .ok written →
          Request.ofText written = Request.ofText text ∧
            (Request.ofText written).map Request.toText = .ok written) ∧
          ∀ (s : Session) (text body : String),
            ((step (.handleText text)).run s).1 = .replyText body →
              ∃ request locator name root, Request.ofText text = .ok request ∧
                request.target = .ok (locator, name) ∧ s.source.fetch locator = .ok root ∧
                  Reply.ofText body = .ok ⟨Component.generate root name⟩ := by
  refine ⟨Request.ofText_toText, Reply.ofText_toText, fun text written hwritten => ?_,
    fun _ _ _ => body_of_step_handleText⟩
  have hsame : Request.ofText written = Request.ofText text := by
    cases htext : Request.ofText text with
    | error cause => simp [htext, Except.map] at hwritten
    | ok r =>
      obtain rfl : r.toText = written := by simpa [htext, Except.map] using hwritten
      exact r.ofText_toText
  exact ⟨hsame, hsame ▸ hwritten⟩

set_option maxRecDepth 4000 in
/-- A request whose members stand the other way round, one key with an escape. -/
theorem wire_round_trip_any_form :
    let text := "\x7b\"\\u0063omponentName\":\"A\",\"figmaUrl\":\"a:/file/K?node-id=1-2\"\x7d"
    let r : Request := ⟨some "a:/file/K?node-id=1-2", some "A"⟩
    let root : Node := .leaf "1:2" "B" .text
    let body := Reply.toText ⟨Component.generate root "A"⟩
    Request.ofText text = .ok r ∧ Request.ofText r.toText = .ok r ∧
      ((step (.handleText text)).run ⟨.tree root, []⟩).1 = .replyText body ∧
        ∃ name node, Reply.ofText body = .ok ⟨Component.generate node name⟩ := by
  intro text r root body
  have hr : Request.ofText text = .ok r := by cbv
  have hlocator : Locator.ofUrl "a:/file/K?node-id=1-2" = .ok ⟨"K", "1:2"⟩ := by cbv
  have hanswered : r.Answered (Source.tree root).fetch (.ok ⟨Component.generate root "A"⟩)
      [⟨"K", "1:2"⟩] :=
    .reply (by decide +kernel) (by decide +kernel) hlocator rfl
  have hbody : ((step (.handleText text)).run ⟨.tree root, []⟩).1 = .replyText body := by
    rw [step_handleText (s := ⟨.tree root, []⟩) hr hanswered]
    rfl
  obtain ⟨-, -, hrequest, hsession⟩ := wire_round_trip
  obtain ⟨hsame, -⟩ := hrequest text r.toText (by rw [hr]; rfl)
  obtain ⟨-, -, name, node, -, -, -, hreply⟩ := hsession _ _ _ hbody
  exact ⟨hr, hsame.trans hr, hbody, name, node, hreply⟩

end Session
end DesignCompiler
