import DesignCompiler.Design.Reading

set_option autoImplicit false

namespace DesignCompiler

open Json

structure Response where
  entries : List (String × Option Node)

namespace Response

/-- The document of the last entry with this id. -/
def find? (r : Response) (nodeId : String) : Option Node :=
  (r.entries.reverse.lookup nodeId).join

def entryForm : Form Unit (Option (Option Node)) (Option Node) :=
  .single "RawEntry" "document" fun document => .ok document.join

def form : Form Unit (Option (List (String × Option (Option Node)))) Response :=
  .single "RawResponse" "nodes" fun entries =>
    .ok ⟨(entries.getD []).map fun e => (e.1, e.2.join)⟩

def entryOfOutline : (depth : Nat) → Outline → Except Issue (Option Node)
  | 0 => entryForm.read none
  | depth + 1 => entryForm.read (some fun _ _ o =>
      some <$> Outline.readOption (Node.ofOutline depth) o)

def ofOutline : (depth : Nat) → Outline → Except Issue Response
  | 0 => form.read none
  | 1 => form.read (some fun _ _ o => some <$> Outline.readMap none o)
  | depth + 2 => form.read (some fun _ _ o =>
      some <$> Outline.readMap (some (Outline.readOption (entryOfOutline depth))) o)

def ofText (text : String) : Except DecodeError Response :=
  (readText (ofOutline nestingLimit) text.toList).mapError .malformed

end Response

def Node.ofResponse (text nodeId : String) : Except DecodeError Node := do
  let response ← Response.ofText text
  match response.find? nodeId with
  | some node => return node
  | none => throw (.nodeNotFound nodeId)

end DesignCompiler
