import DesignCompiler.Source.Request

set_option autoImplicit false

namespace DesignCompiler

structure Session where
  source : Source := .empty
  asked : List Locator := []

inductive Step where
  | install (source : Source)
  | pin (fileKey : String)
  | fetch (locator : Locator)
  | fetchUrl (url : String)
  | handle (request : Request)
  | handleText (text : String)

inductive Answer where
  | done
  | design (root : Node)
  | reply (reply : Reply)
  | replyText (text : String)
  | noLocator (cause : LocatorError)
  | noDesign (cause : FetchError)
  | noReply (cause : RequestError)
  | noRequest (cause : Json.Error)

namespace Session

def fetches (s : Session) : Nat := s.asked.length

def fetch (l : Locator) : StateM Session (Except FetchError Node) := fun s =>
  (s.source.fetch l, { s with asked := s.asked ++ [l] })

theorem run_fetch (l : Locator) (s : Session) :
    (fetch l).run s = pure (s.source.fetch l, { s with asked := s.asked ++ [l] }) := rfl

def fetched : Except FetchError Node → Answer
  | .ok root => .design root
  | .error cause => .noDesign cause

def step : Step → StateM Session Answer
  | .install source => do
    modify fun s => { s with source }
    return .done
  | .pin fileKey => do
    modify fun s => { s with source := s.source.pin fileKey }
    return .done
  | .fetch locator => return fetched (← fetch locator)
  | .fetchUrl url =>
    match Locator.ofUrl url with
    | .error cause => return .noLocator cause
    | .ok locator => return fetched (← fetch locator)
  | .handle request => do
    match ← request.handle fetch with
    | .error cause => return .noReply cause
    | .ok reply => return .reply reply
  | .handleText text =>
    match Request.ofText text with
    | .error cause => return .noRequest cause
    | .ok request => do
      match ← request.handle fetch with
      | .error cause => return .noReply cause
      | .ok reply => return .replyText reply.toText

def run (steps : List Step) : StateM Session (List Answer) := steps.mapM step

end Session
end DesignCompiler
