import DesignCompiler.Json.Outline

set_option autoImplicit false

/-!
# Reading values from an outline

A reader takes what it needs from an outline and passes over the rest. A record is read from an
object by the names of its fields, or from an array in their order. Readers carry what is done
inside a bracket as an `Option`: it is `none` where no more brackets may be opened.
-/
namespace DesignCompiler.Json

/-- The brackets that may be open at once while values are read. -/
def nestingLimit : Nat := 127

def Close.read : Close → Except Issue Unit
  | .closed _ => .ok ()
  | .broken f => .error f.read

namespace Outline

def refusal (expected : Expected) : Outline → Issue
  | .null _ rest => (Problem.invalidType .null expected).before rest
  | .boolean b _ rest => (Problem.invalidType (.boolean b) expected).before rest
  | .number (.ok n) _ rest => (Problem.invalidType (.number n) expected).before rest
  | .number (.error i) _ _ => i
  | .string (.ok s) _ rest => (Problem.invalidType (.string s) expected).before rest
  | .string (.error i) _ _ => i
  | .array start _ _ => (Problem.invalidType .sequence expected).before start
  | .object start _ _ => (Problem.invalidType .map expected).before start
  | .broken _ f => f.read

def readString : Outline → Except Issue String
  | .string s _ _ => s
  | o => .error (o.refusal .string)

def readOption {α : Type} (read : Outline → Except Issue α) : Outline → Except Issue (Option α)
  | .null _ _ => .ok none
  | o => some <$> read o

def readList {α : Type} (item : Option (Outline → Except Issue α)) :
    Outline → Except Issue (List α)
  | .array start items close =>
    match item with
    | none => .error (Problem.nestedTooDeep.at start)
    | some read => do
      let xs ← items.mapM read
      close.read
      return xs
  | o => .error (o.refusal .sequence)

def readMap {α : Type} (value : Option (Outline → Except Issue α)) :
    Outline → Except Issue (List (String × α))
  | .object start members close =>
    match value with
    | none => .error (Problem.nestedTooDeep.at start)
    | some read => do
      let xs ← members.mapM fun m => do
        let key ← m.1.text
        let x ← read m.2
        return (key, x)
      close.read
      return xs
  | o => .error (o.refusal .map)

end Outline

/-- How a record is read: its fields `φ`, what is gathered of them in `σ`, and the result. -/
structure Form (φ σ α : Type) where
  record : Record
  order : List φ
  ofKey? : String → Option φ
  start : σ
  has : φ → σ → Bool
  finish : σ → Except String α

namespace Form

variable {φ σ α : Type}

def single {β : Type} (name key : String) (finish : Option β → Except String α) :
    Form Unit (Option β) α where
  record := ⟨name, [key]⟩
  order := [()]
  ofKey? k := if k = key then some () else none
  start := none
  has _ x := x.isSome
  finish := finish

/-- The issue of a field that is given twice, raised behind its second key. A closing brace that
comes next counts as read. -/
def duplicate (name : String) (after : List Char) : Issue :=
  match after with
  | '}' :: _ => (Problem.duplicateField name).at after
  | _ => (Problem.duplicateField name).before after

/-- The issue where the items of an array go on after the last field of a record. -/
def afterLast (f : Fault) : Issue :=
  match f.read.problem with
  | .expectedListEnd => ⟨.trailingCharacters, f.read.mark⟩
  | .endInValue => ⟨.trailingCharacters, f.read.mark⟩
  | _ => f.read

def gatherMembers (form : Form φ σ α) (put : φ → σ → Outline → Except Issue σ) (state : σ) :
    List (Key × Outline) → Except Issue σ
  | [] => .ok state
  | (key, o) :: rest => do
    let name ← key.text
    match form.ofKey? name with
    | none => do
      o.skip
      form.gatherMembers put state rest
    | some field =>
      if form.has field state then .error (duplicate name key.after)
      else do
        let state ← put field state o
        form.gatherMembers put state rest

def gatherItems (put : φ → σ → Outline → Except Issue σ) :
    List φ → σ → List Outline → Except Issue (σ × Bool)
  | fields, state, [] => .ok (state, fields.isEmpty)
  | [], _, o :: _ => .error (Problem.trailingCharacters.at o.start)
  | field :: fields, state, o :: rest => do
    let state ← put field state o
    gatherItems put fields state rest

def read (form : Form φ σ α) (put : Option (φ → σ → Outline → Except Issue σ)) :
    Outline → Except Issue α
  | .object start members close =>
    match put with
    | none => .error (Problem.nestedTooDeep.at start)
    | some put => do
      let state ← form.gatherMembers put form.start members
      match close with
      | .broken f => .error f.read
      | .closed rest =>
        match form.finish state with
        | .ok x => .ok x
        | .error name => .error ((Problem.missingField name).before rest)
  | .array start items close =>
    match put with
    | none => .error (Problem.nestedTooDeep.at start)
    | some put => do
      let (state, complete) ← gatherItems put form.order form.start items
      match close with
      | .broken f => .error (if complete then afterLast f else f.read)
      | .closed rest =>
        match form.finish state with
        | .ok x => .ok x
        | .error _ => .error ((Problem.tooFewElements items.length form.record).before rest)
  | o => .error (o.refusal (.record form.record))

end Form

def readText {α : Type} (read : Outline → Except Issue α) (text : List Char) : Except Error α :=
  let document := Document.ofText text
  match read document.root with
  | .error i => .error (i.report text)
  | .ok x => (document.finish x).mapError (·.report text)

end DesignCompiler.Json
