import DesignCompiler.Component.Sections
import DesignCompiler.Json.Writer
import DesignCompiler.Source.Saved

set_option autoImplicit false

namespace DesignCompiler

open Json

structure Request where
  url : Option String
  name : Option String
deriving DecidableEq, Repr

structure Reply where
  component : String
deriving DecidableEq, Repr

inductive RequestError where
  | missingInput (field : String)
  | locator (cause : LocatorError)
  | fetch (cause : FetchError)
deriving DecidableEq, Repr

inductive Origin where
  | request
  | source
deriving DecidableEq, Repr

namespace RequestError

def message : RequestError → String
  | .missingInput field => "Missing required parameter: " ++ field
  | .locator cause => cause.message
  | .fetch cause => "Failed to fetch design: " ++ cause.message

def chain (e : RequestError) : List String :=
  match e with
  | .missingInput _ => [e.message]
  | .locator cause => cause.chain
  | .fetch cause => e.message :: cause.chain

def origin : RequestError → Origin
  | .missingInput _ => .request
  | .locator _ => .request
  | .fetch _ => .source

end RequestError

namespace Request

def urlKey : String := "figmaUrl"

def nameKey : String := "componentName"

def required (value : Option String) (key : String) : Except RequestError String :=
  match value.map (Text.trim ·.toList) with
  | some (c :: cs) => .ok (String.ofList (c :: cs))
  | _ => .error (.missingInput key)

def target (r : Request) : Except RequestError (Locator × String) := do
  let url ← required r.url urlKey
  let name ← required r.name nameKey
  let locator ← (Locator.ofUrl url).mapError .locator
  return (locator, name)

def handle {m : Type → Type} [Monad m] (fetch : Locator → m (Except FetchError Node))
    (r : Request) : m (Except RequestError Reply) :=
  match r.target with
  | .error e => pure (.error e)
  | .ok (locator, name) => do
    match ← fetch locator with
    | .error e => return .error (.fetch e)
    | .ok root => return .ok ⟨Component.generate root name⟩

inductive Field where
  | url
  | name
deriving DecidableEq, Repr

namespace Field

def order : List Field := [.url, .name]

def key : Field → String
  | .url => urlKey
  | .name => nameKey

def ofKey? (key : String) : Option Field := order.find? fun f => f.key = key

end Field

structure Draft where
  url : Option (Option String) := none
  name : Option (Option String) := none
deriving DecidableEq, Repr

namespace Draft

def has : Field → Draft → Bool
  | .url, d => d.url.isSome
  | .name, d => d.name.isSome

def put (field : Field) (d : Draft) (o : Outline) : Except Issue Draft := do
  let value ← Outline.readOption Outline.readString o
  match field with
  | .url => return { d with url := some value }
  | .name => return { d with name := some value }

end Draft

def form : Form Field Draft Request where
  record := ⟨"GenerateRequest", Field.order.map Field.key⟩
  order := Field.order
  ofKey? := Field.ofKey?
  start := {}
  has := Draft.has
  finish d := .ok ⟨d.url.join, d.name.join⟩

def ofText (text : String) : Except Json.Error Request :=
  readText (form.read (some Draft.put)) text.toList

def toText (r : Request) : String :=
  String.ofList (writeObject [(urlKey, writeOption r.url), (nameKey, writeOption r.name)])

end Request

namespace Reply

def componentKey : String := "component"

def form : Form Unit (Option String) Reply :=
  .single "GenerateResponse" componentKey fun
    | some component => .ok ⟨component⟩
    | none => .error componentKey

def ofText (text : String) : Except Json.Error Reply :=
  readText (form.read (some fun _ _ o => some <$> o.readString)) text.toList

def toText (r : Reply) : String :=
  String.ofList (writeObject [(componentKey, writeString r.component.toList)])

end Reply
end DesignCompiler
