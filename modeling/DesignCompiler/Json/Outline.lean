import DesignCompiler.Json.Scalar

set_option autoImplicit false

/-!
# The outline of a JSON text

An outline is what a text says, as far as its grammar holds, with the text that remains at each
place. Values are read from it later: what is only passed over need not have a value, so numbers
and strings keep the outcome of reading them. A text that breaks the grammar has an outline that
ends in a `Fault`, which is worded differently when it is met while passing over a value.
-/
namespace DesignCompiler.Json

/-- Where a text breaks the grammar, as met while reading and while passing over a value. -/
structure Fault where
  skipped : Issue
  read : Issue
deriving DecidableEq, Repr

def Fault.same (i : Issue) : Fault := ⟨i, i⟩

inductive Close where
  | closed (rest : List Char)
  | broken (fault : Fault)
deriving DecidableEq, Repr

def Close.skip : Close → Except Issue Unit
  | .closed _ => .ok ()
  | .broken f => .error f.skipped

structure Key where
  text : Except Issue String
  after : List Char

/-- A value of a text, from `start` on; `rest` remains behind a scalar. -/
inductive Outline where
  | null (start rest : List Char)
  | boolean (value : Bool) (start rest : List Char)
  | number (value : Except Issue Number) (start rest : List Char)
  | string (value : Except Issue String) (start rest : List Char)
  | array (start : List Char) (items : List Outline) (close : Close)
  | object (start : List Char) (members : List (Key × Outline)) (close : Close)
  | broken (start : List Char) (fault : Fault)

def Outline.start : Outline → List Char
  | .null s _ => s
  | .boolean _ s _ => s
  | .number _ s _ => s
  | .string _ s _ => s
  | .array s _ _ => s
  | .object s _ _ => s
  | .broken s _ => s

/-- What is ahead once a part of `s` is outlined, unless the grammar is broken before. -/
abbrev Ahead (s : List Char) := Except Fault (Rest s)

def Ahead.widen {r s : List Char} (h : r.length ≤ s.length) (a : Ahead r) : Ahead s :=
  a.map fun x => ⟨x.1, Nat.lt_of_lt_of_le x.2 h⟩

namespace Outline

/-- The outline of a value that breaks the grammar at once. -/
def stuck (s : List Char) (f : Fault) : Outline × Ahead s := (.broken s f, .error f)

def ofWord (s r word : List Char) (h : r.length < s.length)
    (make : List Char → List Char → Outline) : Outline × Ahead s :=
  match h' : readWord word r with
  | .ok rest => (make s rest, .ok ⟨rest, Nat.lt_of_le_of_lt (length_le_of_readWord h') h⟩)
  | .error i => stuck s (.same i)

def ofNumber (s : List Char) : Outline × Ahead s :=
  match h : skipNumber s with
  | .ok rest =>
    (.number ((readNumber s).map Prod.fst) s rest, .ok ⟨rest, length_lt_of_skipNumber h⟩)
  | .error skipped =>
    match readNumber s with
    | .ok _ => stuck s (.same skipped)
    | .error read => stuck s ⟨skipped, read⟩

def ofString (c : Char) (r : List Char) : Outline × Ahead (c :: r) :=
  match skipString r with
  | .ok ⟨rest, h⟩ =>
    (.string ((readString r).map fun x => String.ofList x.1) (c :: r) rest,
      .ok ⟨rest, Nat.lt_succ_of_lt h⟩)
  | .error skipped =>
    match readString r with
    | .ok _ => stuck _ (.same skipped)
    | .error read => stuck _ ⟨skipped, read⟩

def ofScalar (c : Char) (r : List Char) : Outline × Ahead (c :: r) :=
  if c = 'n' then ofWord (c :: r) r ['u', 'l', 'l'] (Nat.lt_succ_self _) .null
  else if c = 't' then ofWord (c :: r) r ['r', 'u', 'e'] (Nat.lt_succ_self _) (.boolean true)
  else if c = 'f' then ofWord (c :: r) r ['a', 'l', 's', 'e'] (Nat.lt_succ_self _) (.boolean false)
  else if c = '"' then ofString c r
  else if c = '-' || isDigit c then ofNumber (c :: r)
  else stuck (c :: r) (.same (Problem.expectedValue.at (c :: r)))

/-- The outcome of reading and of passing over a key, behind its opening quote. -/
def keyOf (s : List Char) : Except Fault (Except Issue String × Rest s) :=
  match skipString s with
  | .ok rest => .ok ((readString s).map fun x => String.ofList x.1, rest)
  | .error skipped =>
    match readString s with
    | .ok _ => .error (.same skipped)
    | .error read => .error ⟨skipped, read⟩

mutual

def next (s : List Char) : Outline × Ahead s :=
  match h : skipSpace s with
  | [] => stuck s (.same (Problem.endInValue.before []))
  | c :: r =>
    have hs : r.length < s.length := length_lt_of_skipSpace h
    have hc : (c :: r).length ≤ s.length := Nat.succ_le_of_lt hs
    if c = '[' then
      let (items, close, ahead) := items true r
      (.array (c :: r) items close, ahead.widen (Nat.le_of_lt hs))
    else if c = '{' then
      let (members, close, ahead) := members true r
      (.object (c :: r) members close, ahead.widen (Nat.le_of_lt hs))
    else
      let (o, ahead) := ofScalar c r
      (o, ahead.widen hc)
termination_by 3 * s.length

def items (first : Bool) (s : List Char) : List Outline × Close × Ahead s :=
  match h : skipSpace s with
  | [] =>
    let f := Fault.same (Problem.endInList.before [])
    ([], .broken f, .error f)
  | c :: r =>
    have hs : r.length < s.length := length_lt_of_skipSpace h
    have hc : (c :: r).length ≤ s.length := Nat.succ_le_of_lt hs
    if c = ']' then ([], .closed r, .ok ⟨r, hs⟩)
    else if first then
      let (items, close, ahead) := item (c :: r)
      (items, close, ahead.widen hc)
    else if c = ',' then
      match h' : skipSpace r with
      | [] =>
        let f := Fault.same (Problem.endInValue.before [])
        ([], .broken f, .error f)
      | d :: r' =>
        have hr : (d :: r').length ≤ r.length := Nat.succ_le_of_lt (length_lt_of_skipSpace h')
        if d = ']' then
          let f : Fault := ⟨Problem.expectedValue.at (d :: r'), Problem.trailingComma.at (d :: r')⟩
          ([], .broken f, .error f)
        else
          let (items, close, ahead) := item (d :: r')
          (items, close, ahead.widen (Nat.le_trans hr (Nat.le_of_lt hs)))
    else
      let f := Fault.same (Problem.expectedListEnd.at (c :: r))
      ([], .broken f, .error f)
termination_by 3 * s.length + 2
decreasing_by all_goals omega

def item (s : List Char) : List Outline × Close × Ahead s :=
  match next s with
  | (o, .error f) => ([o], .broken f, .error f)
  | (o, .ok ⟨r, h⟩) =>
    let (os, close, ahead) := items false r
    (o :: os, close, ahead.widen (Nat.le_of_lt h))
termination_by 3 * s.length + 1
decreasing_by all_goals omega

def members (first : Bool) (s : List Char) : List (Key × Outline) × Close × Ahead s :=
  match h : skipSpace s with
  | [] =>
    let f := Fault.same (Problem.endInObject.before [])
    ([], .broken f, .error f)
  | c :: r =>
    have hs : r.length < s.length := length_lt_of_skipSpace h
    if c = '}' then ([], .closed r, .ok ⟨r, hs⟩)
    else if first then
      if c = '"' then
        let (members, close, ahead) := member r
        (members, close, ahead.widen (Nat.le_of_lt hs))
      else
        let f := Fault.same (Problem.keyNotString.at (c :: r))
        ([], .broken f, .error f)
    else if c = ',' then
      match h' : skipSpace r with
      | [] =>
        let f : Fault := ⟨Problem.endInObject.before [], Problem.endInValue.before []⟩
        ([], .broken f, .error f)
      | d :: r' =>
        have hr : r'.length < r.length := length_lt_of_skipSpace h'
        if d = '"' then
          let (members, close, ahead) := member r'
          (members, close, ahead.widen (Nat.le_of_lt (Nat.lt_trans hr hs)))
        else if d = '}' then
          let f : Fault := ⟨Problem.keyNotString.at (d :: r'), Problem.trailingComma.at (d :: r')⟩
          ([], .broken f, .error f)
        else
          let f := Fault.same (Problem.keyNotString.at (d :: r'))
          ([], .broken f, .error f)
    else
      let f := Fault.same (Problem.expectedObjectEnd.at (c :: r))
      ([], .broken f, .error f)
termination_by 3 * s.length + 2
decreasing_by all_goals omega

def member (s : List Char) : List (Key × Outline) × Close × Ahead s :=
  match keyOf s with
  | .error f => ([], .broken f, .error f)
  | .ok (text, ⟨r, h⟩) =>
    match h' : skipSpace r with
    | [] =>
      let f := Fault.same (Problem.endInObject.before [])
      ([(⟨text, []⟩, .broken [] f)], .broken f, .error f)
    | c :: r₁ =>
      have hr : r₁.length < r.length := length_lt_of_skipSpace h'
      if c = ':' then
        match next r₁ with
        | (o, .error f) => ([(⟨text, c :: r₁⟩, o)], .broken f, .error f)
        | (o, .ok ⟨r₂, h₂⟩) =>
          let (os, close, ahead) := members false r₂
          have hs : r₂.length < s.length := Nat.lt_trans (Nat.lt_trans h₂ hr) h
          ((⟨text, c :: r₁⟩, o) :: os, close, ahead.widen (Nat.le_of_lt hs))
      else
        let f := Fault.same (Problem.expectedColon.at (c :: r₁))
        ([(⟨text, c :: r₁⟩, .broken (c :: r₁) f)], .broken f, .error f)
termination_by 3 * s.length + 1
decreasing_by all_goals omega

end

mutual

/-- Pass over a value: nothing is looked at but the grammar. -/
def skip : Outline → Except Issue Unit
  | .array _ items close => skipItems close items
  | .object _ members close => skipMembers close members
  | .broken _ f => .error f.skipped
  | _ => .ok ()

def skipItems (close : Close) : List Outline → Except Issue Unit
  | [] => close.skip
  | o :: os => do
    o.skip
    skipItems close os

def skipMembers (close : Close) : List (Key × Outline) → Except Issue Unit
  | [] => close.skip
  | (_, o) :: os => do
    o.skip
    skipMembers close os

end

end Outline

structure Document where
  root : Outline
  after : Except Fault (List Char)

def Document.ofText (text : List Char) : Document :=
  let (root, ahead) := Outline.next text
  ⟨root, ahead.map fun r => skipSpace r.1⟩

def Document.finish {α : Type} (d : Document) (x : α) : Except Issue α :=
  match d.after with
  | .ok [] => .ok x
  | .ok rest => .error (Problem.trailingCharacters.at rest)
  | .error f => .error f.read

end DesignCompiler.Json
