import DesignCompiler.Design.Response
import DesignCompiler.Source.Files
import DesignCompiler.Source.Locator

set_option autoImplicit false

namespace DesignCompiler

inductive FetchError where
  | notFound (fileKey nodeId : String)
  | fileMismatch (expected actual : String)
  | malformed (cause : DecodeError)
  | unreadable (path : String) (cause : FileError)
deriving DecidableEq, Repr

def FetchError.message : FetchError → String
  | .notFound fileKey nodeId => "Node " ++ nodeId ++ " not found in file " ++ fileKey
  | .fileMismatch expected actual =>
    "Design response is pinned to file " ++ expected ++ ", not " ++ actual
  | .malformed cause => "Malformed design response: " ++ cause.message
  | .unreadable path cause => "Failed to read design response " ++ path ++ ": " ++ cause.message

def FetchError.chain (e : FetchError) : List String :=
  match e with
  | .malformed cause => e.message :: cause.chain
  | .unreadable _ cause => [e.message, cause.message]
  | _ => [e.message]

structure SavedResponse where
  text : String
  fileKey : Option String := none
deriving DecidableEq, Repr

namespace SavedResponse

def forFile (r : SavedResponse) (fileKey : String) : SavedResponse :=
  { r with fileKey := some fileKey }

def ofFile {m : Type → Type} [Monad m] (files : Files m) (path : String) :
    m (Except FetchError SavedResponse) := do
  match ← files.read path with
  | .error cause => return .error (.unreadable path cause)
  | .ok text => return .ok { text }

/-- The design at a locator. A pin is looked at before the text. -/
def fetch (r : SavedResponse) (l : Locator) : Except FetchError Node :=
  match r.fileKey.filter (· ≠ l.fileKey) with
  | some expected => .error (.fileMismatch expected l.fileKey)
  | none =>
    match Node.ofResponse r.text l.nodeId with
    | .ok root => .ok root
    | .error (.nodeNotFound nodeId) => .error (.notFound l.fileKey nodeId)
    | .error e => .error (.malformed e)

end SavedResponse

inductive Source where
  | empty
  | tree (root : Node)
  | saved (response : SavedResponse)
  | failing (cause : FetchError)

namespace Source

def fetch : Source → Locator → Except FetchError Node
  | .empty, l => .error (.notFound l.fileKey l.nodeId)
  | .tree root, _ => .ok root
  | .saved r, l => r.fetch l
  | .failing cause, _ => .error cause

def pin (fileKey : String) : Source → Source
  | .saved r => .saved (r.forFile fileKey)
  | s => s

end Source
end DesignCompiler
