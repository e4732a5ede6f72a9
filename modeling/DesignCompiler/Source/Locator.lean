import DesignCompiler.Url.Parsing
import DesignCompiler.Url.Query

set_option autoImplicit false

namespace DesignCompiler

structure Locator where
  fileKey : String
  nodeId : String
deriving DecidableEq, Repr

/-- Why a URL names no node. The URL is kept as it was given. -/
inductive LocatorError where
  | unparsable (cause : Url.Fault)
  | missingFileKey (url : String)
  | missingNodeId (url : String)
deriving DecidableEq, Repr

def LocatorError.message : LocatorError → String
  | .unparsable cause => "Invalid design URL: " ++ cause.message
  | .missingFileKey url => "Design URL has no file key: " ++ url
  | .missingNodeId url => "Design URL has no node-id parameter: " ++ url

def LocatorError.chain (e : LocatorError) : List String :=
  match e with
  | .unparsable cause => [e.message, cause.message]
  | _ => [e.message]

namespace Locator

def markers : List Url.Segment := ["file".toList, "design".toList, "proto".toList]

/-- The segment behind the first marker. Empty segments do not count. -/
def fileKey? (path : List Url.Segment) : Option Url.Segment :=
  ((path.filter (!·.isEmpty)).dropWhile (!markers.contains ·))[1]?

def dashToColon (c : Char) : Char := if c = '-' then ':' else c

/-- The first parameter `node-id` of a query, unless it is empty. -/
def nodeId? (query : List Char) : Option (List Char) :=
  (((Url.queryPairs query).lookup "node-id".toList).map (·.map dashToColon)).filter (!·.isEmpty)

def ofUrl (url : String) : Except LocatorError Locator :=
  match Url.parse (Text.trim url.toList) with
  | .error cause => .error (.unparsable cause)
  | .ok address =>
    match fileKey? address.path, nodeId? address.query with
    | none, _ => .error (.missingFileKey url)
    | some _, none => .error (.missingNodeId url)
    | some key, some nodeId => .ok ⟨String.ofList key, String.ofList nodeId⟩

end Locator
end DesignCompiler
