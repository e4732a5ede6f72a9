import DesignCompiler.Proofs.Design.Response
import DesignCompiler.Source.Saved

set_option autoImplicit false

namespace DesignCompiler
open Json

namespace Response

def entryOf? (nodeId : String) (o : Outline) : Option Outline :=
  (o.field? "nodes").bind (·.member? nodeId)

/-- The last entry with an id is missing or `null`, or its document is. -/
inductive LacksDocument (nodeId : String) (o : Outline) : Prop where
  | noEntry (hentry : entryOf? nodeId o = none)
  | nullEntry {entry : Outline} (hentry : entryOf? nodeId o = some entry)
      (hnull : entry.isNull = true)
  | noDocument {entry : Outline} (hentry : entryOf? nodeId o = some entry)
      (hdocument : entry.field? "document" = none)
  | nullDocument {entry document : Outline} (hentry : entryOf? nodeId o = some entry)
      (hdocument : entry.field? "document" = some document) (hnull : document.isNull = true)

theorem documentOf?_eq_bind (nodeId : String) (o : Outline) :
    documentOf? nodeId o = (entryOf? nodeId o).bind (·.field? "document") := by
  rw [entryOf?, Option.bind_assoc]
  rfl

theorem lacksDocument_iff {nodeId : String} {o : Outline} :
    LacksDocument nodeId o ↔ ∀ d, documentOf? nodeId o = some d → d.isNull = true := by
  rw [documentOf?_eq_bind]
  constructor
  · intro h d hd
    cases h with
    | noEntry hentry => simp [hentry] at hd
    | @nullEntry entry hentry hnull =>
      cases entry with
      | null start rest => simp [hentry, Outline.field?, Outline.member?] at hd
      | _ => exact absurd hnull Bool.false_ne_true
    | noDocument hentry hdocument => simp [hentry, hdocument] at hd
    | nullDocument hentry hdocument hnull =>
      simp only [hentry, hdocument, Option.bind_some, Option.some.injEq] at hd
      rwa [← hd]
  · intro h
    cases hentry : entryOf? nodeId o with
    | none => exact .noEntry hentry
    | some entry =>
      cases hdocument : entry.field? "document" with
      | none => exact .noDocument hentry hdocument
      | some document =>
        exact .nullDocument hentry hdocument (h document (by simp [hentry, hdocument]))

variable {text nodeId : String} {response : Response}

theorem find?_eq_none_of_lacksDocument (h : ofText text = .ok response)
    (hlacks : LacksDocument nodeId (Document.ofText text.toList).root) :
    response.find? nodeId = none := by
  rcases find?_of_ofOutline nodeId (ofText_eq_ok.1 h).1 with ⟨-, hnone⟩ | ⟨d, hd, hread⟩
  · exact hnone
  · have hnull := lacksDocument_iff.1 hlacks d hd
    rcases Outline.readOption_eq_ok.1 hread with ⟨-, hfind⟩ | ⟨hsome, -⟩
    · exact hfind
    · rw [hnull] at hsome
      exact nomatch hsome

theorem find?_of_not_lacksDocument (h : ofText text = .ok response)
    (hlacks : ¬ LacksDocument nodeId (Document.ofText text.toList).root) :
    ∃ document root, documentText? text nodeId = some document ∧ Node.ofText document = .ok root ∧
      response.find? nodeId = some root := by
  obtain ⟨hroot, hafter⟩ := ofText_eq_ok.1 h
  rw [lacksDocument_iff] at hlacks
  push Not at hlacks
  obtain ⟨d, hd, hnull⟩ := hlacks
  obtain ⟨s, r, -, hspells, hr⟩ := exists_spells_document hafter hd
  rcases find?_of_ofOutline nodeId hroot with ⟨hnone, -⟩ | ⟨d', hd', hread⟩
  · rw [hd] at hnone
    exact nomatch hnone
  · obtain rfl : d = d' := Option.some.inj (hd.symm.trans hd')
    rcases Outline.readOption_eq_ok.1 hread with ⟨hsome, -⟩ | ⟨-, root, hn, hfind⟩
    · exact absurd hsome hnull
    · exact ⟨_, root, congrArg _ hd, Node.ofText_slice hspells hr hn, hfind⟩

theorem malformed_of_ofText_error {cause : DecodeError} (h : ofText text = .error cause) :
    ∃ e, cause = .malformed e := by
  rw [ofText] at h
  cases hread : readText (ofOutline nestingLimit) text.toList with
  | ok response => simp [hread, Except.mapError] at h
  | error e =>
    rw [hread] at h
    exact ⟨e, (Except.error.inj h).symm⟩

end Response

namespace SavedResponse

/-- A saved response that was pinned to these files, one after the other. -/
def pinned (text : String) (pins : List String) : SavedResponse := pins.foldl forFile ⟨text, none⟩

theorem pinned_append_singleton (text : String) (pins : List String) (pin : String) :
    pinned text (pins ++ [pin]) = (pinned text pins).forFile pin := by
  rw [pinned, List.foldl_append]
  rfl

theorem pinned_eq (text : String) (pins : List String) :
    pinned text pins = ⟨text, pins.getLast?⟩ := by
  induction pins using List.reverseRecOn with
  | nil => rfl
  | append_singleton pins pin ih =>
    rw [pinned_append_singleton, ih, List.getLast?_concat]
    rfl

/-- The rules by which a response delivers. A rule stands for what those before it leave over. -/
inductive Delivers (text : String) (pins : List String) (l : Locator) :
    Except FetchError Node → Prop where
  | mismatch {pin : String} (hpin : pins.getLast? = some pin) (hne : pin ≠ l.fileKey) :
      Delivers text pins l (.error (.fileMismatch pin l.fileKey))
  | malformed {cause : DecodeError} (hpin : ∀ pin, pins.getLast? = some pin → pin = l.fileKey)
      (htext : Response.ofText text = .error cause) :
      Delivers text pins l (.error (.malformed cause))
  | notFound {response : Response} (hpin : ∀ pin, pins.getLast? = some pin → pin = l.fileKey)
      (htext : Response.ofText text = .ok response)
      (hlacks : Response.LacksDocument l.nodeId (Document.ofText text.toList).root) :
      Delivers text pins l (.error (.notFound l.fileKey l.nodeId))
  | found {response : Response} {document : String} {root : Node}
      (hpin : ∀ pin, pins.getLast? = some pin → pin = l.fileKey)
      (htext : Response.ofText text = .ok response)
      (hlacks : ¬ Response.LacksDocument l.nodeId (Document.ofText text.toList).root)
      (hdocument : Response.documentText? text l.nodeId = some document)
      (hread : Node.ofText document = .ok root) : Delivers text pins l (.ok root)

variable {text : String} {pins : List String} {l : Locator} {result : Except FetchError Node}

theorem exists_delivers (text : String) (pins : List String) (l : Locator) :
    ∃ result, Delivers text pins l result := by
  by_cases hpin : ∀ pin, pins.getLast? = some pin → pin = l.fileKey
  · cases htext : Response.ofText text with
    | error cause => exact ⟨_, .malformed hpin htext⟩
    | ok response =>
      by_cases hlacks : Response.LacksDocument l.nodeId (Document.ofText text.toList).root
      · exact ⟨_, .notFound hpin htext hlacks⟩
      · obtain ⟨document, root, hdocument, hread, -⟩ :=
          Response.find?_of_not_lacksDocument htext hlacks
        exact ⟨_, .found hpin htext hlacks hdocument hread⟩
  · push Not at hpin
    obtain ⟨pin, hlast, hne⟩ := hpin
    exact ⟨_, .mismatch hlast hne⟩

theorem fetch_of_mismatch {pin : String} (hpin : pins.getLast? = some pin) (hne : pin ≠ l.fileKey) :
    (pinned text pins).fetch l = .error (.fileMismatch pin l.fileKey) := by
  rw [pinned_eq, fetch, hpin, Option.filter_some, if_pos (by simpa using hne)]

theorem fetch_of_pin (hpin : ∀ pin, pins.getLast? = some pin → pin = l.fileKey) :
    (pinned text pins).fetch l = (pinned text []).fetch l := by
  have hfilter : pins.getLast?.filter (· ≠ l.fileKey) = none := by
    rw [Option.filter_eq_none_iff]
    intro pin hlast
    simpa using hpin pin hlast
  rw [pinned_eq, fetch, hfilter]
  rfl

theorem fetch_of_error {cause : DecodeError} (htext : Response.ofText text = .error cause) :
    (pinned text []).fetch l = .error (.malformed cause) := by
  obtain ⟨e, rfl⟩ := Response.malformed_of_ofText_error htext
  have hread : Node.ofResponse text l.nodeId = .error (.malformed e) := by
    rw [Node.ofResponse, htext]
    rfl
  rw [pinned_eq, fetch]
  simp only [List.getLast?_nil, Option.filter_none, hread]

theorem fetch_of_find? {response : Response} (htext : Response.ofText text = .ok response) :
    (pinned text []).fetch l =
      (response.find? l.nodeId).elim (.error (.notFound l.fileKey l.nodeId)) .ok := by
  have hread : Node.ofResponse text l.nodeId =
      (response.find? l.nodeId).elim (.error (.nodeNotFound l.nodeId)) .ok := by
    rw [Node.ofResponse, htext]
    cases h : response.find? l.nodeId <;> simp [bind, Except.bind, h] <;> rfl
  rw [pinned_eq, fetch]
  simp only [List.getLast?_nil, Option.filter_none, hread]
  cases response.find? l.nodeId <;> rfl

theorem Delivers.fetch (h : Delivers text pins l result) : (pinned text pins).fetch l = result := by
  cases h with
  | mismatch hpin hne => exact fetch_of_mismatch hpin hne
  | malformed hpin htext => rw [fetch_of_pin hpin, fetch_of_error htext]
  | notFound hpin htext hlacks =>
    rw [fetch_of_pin hpin, fetch_of_find? htext,
      Response.find?_eq_none_of_lacksDocument htext hlacks]
    rfl
  | found hpin htext hlacks hdocument hread =>
    -- What is found was read inside the response; read by itself, the document gives the same tree.
    obtain ⟨document', root', hdocument', hread', hfind⟩ :=
      Response.find?_of_not_lacksDocument htext hlacks
    obtain rfl := Option.some.inj (hdocument.symm.trans hdocument')
    obtain rfl := Except.ok.inj (hread.symm.trans hread')
    rw [fetch_of_pin hpin, fetch_of_find? htext, hfind]
    rfl

/-- What is fetched from a saved response is told by the rules, and only one of them applies. A pin
does not show for its own file, and a text that is broken for one node is so for every node that is
not of another file. -/
theorem fetch_by_rules :
    (∀ (text : String) (pins : List String) (l : Locator) (result : Except FetchError Node),
      (pinned text pins).fetch l = result ↔ Delivers text pins l result) ∧
    (∀ (text : String) (pins : List String) (l : Locator),
      (pinned text (pins ++ [l.fileKey])).fetch l = (pinned text []).fetch l) ∧
    ∀ (text : String) (pins : List String) (l other : Locator) (cause : DecodeError),
      (pinned text pins).fetch l = .error (.malformed cause) →
        (pinned text pins).fetch other = .error (.malformed cause) ∨
        ∃ pin, pin ≠ other.fileKey ∧
          (pinned text pins).fetch other = .error (.fileMismatch pin other.fileKey) := by
  have hrules (text : String) (pins : List String) (l : Locator)
      (result : Except FetchError Node) :
      (pinned text pins).fetch l = result ↔ Delivers text pins l result := by
    constructor
    · rintro rfl
      obtain ⟨result, h⟩ := exists_delivers text pins l
      rwa [h.fetch]
    · exact Delivers.fetch
  refine ⟨hrules, fun text pins l => ?_, fun text pins l other cause h => ?_⟩
  · apply fetch_of_pin
    intro pin hlast
    rw [List.getLast?_concat] at hlast
    exact (Option.some.inj hlast).symm
  · cases (hrules text pins l _).1 h with
    | malformed hpin htext =>
      by_cases hother : ∀ pin, pins.getLast? = some pin → pin = other.fileKey
      · exact .inl (Delivers.malformed hother htext).fetch
      · push Not at hother
        obtain ⟨pin, hlast, hne⟩ := hother
        exact .inr ⟨pin, hne, fetch_of_mismatch hlast hne⟩

set_option maxRecDepth 4000 in
/-- A bad entry spoils the text for the nodes of other entries. -/
theorem fetch_of_bad_entry :
    let text := "\x7b\"nodes\":\x7b\"1\":\x7b\"document\":0\x7d,\"2\":null\x7d\x7d"
    let cause : DecodeError :=
      .malformed ⟨.invalidType (.number (.natural 0)) (.record Draft.record), some ⟨1, 27⟩⟩
    (pinned text ["L", "K"]).fetch ⟨"K", "2"⟩ = .error (.malformed cause) ∧
      (pinned text ["L", "K"]).fetch ⟨"K", "1"⟩ = .error (.malformed cause) := by
  intro text cause
  have hfetch : (pinned text ["L", "K"]).fetch ⟨"K", "2"⟩ = .error (.malformed cause) := by cbv
  refine ⟨hfetch, ?_⟩
  rcases fetch_by_rules.2.2 text ["L", "K"] ⟨"K", "2"⟩ ⟨"K", "1"⟩ cause hfetch with h | h
  · exact h
  · obtain ⟨pin, hne, hmismatch⟩ := h
    cases (fetch_by_rules.1 text ["L", "K"] ⟨"K", "1"⟩ _).1 hmismatch with
    | mismatch hpin _ => exact absurd (Option.some.inj hpin).symm hne

end SavedResponse
end DesignCompiler
