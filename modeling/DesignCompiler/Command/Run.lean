import DesignCompiler.Command.Arguments
import DesignCompiler.Command.Output
import DesignCompiler.Source.Request
import DesignCompiler.Text.Lines

set_option autoImplicit false

namespace DesignCompiler

inductive Failure where
  | noResponse (cause : FetchError)
  | noComponent (name : String) (cause : RequestError)
  | unread (path : String) (cause : FileError)
  | undecoded (path : String) (cause : DecodeError)
  | unwritten (path : String) (cause : FileError)
deriving DecidableEq, Repr

namespace Failure

def message : Failure → String
  | .noResponse cause => cause.message
  | .noComponent name _ => "Failed to generate " ++ name
  | .unread path _ => "Error reading " ++ path
  | .undecoded path _ => "Error decoding " ++ path
  | .unwritten path _ => "Error writing " ++ path

def causes : Failure → List String
  | .noResponse cause => cause.chain.tail
  | .noComponent _ cause => cause.chain
  | .unread _ cause => [cause.message]
  | .undecoded _ cause => cause.chain
  | .unwritten _ cause => [cause.message]

def numbered (number : Nat) : List String → List Char
  | [] => []
  | cause :: causes =>
    let digits := decimal number
    '\n' :: List.replicate (5 - digits.length) ' ' ++ digits ++ [':', ' '] ++
      Text.hang (List.replicate 7 ' ') cause.toList ++ numbered (number + 1) causes

/-- The report of a failure. A single cause has no number. -/
def report (f : Failure) : String :=
  String.ofList ("Error: ".toList ++ f.message.toList ++
    (match f.causes with
      | [] => []
      | [cause] => "\n\nCaused by:\n    ".toList ++ Text.hang (List.replicate 4 ' ') cause.toList
      | causes => "\n\nCaused by:".toList ++ numbered 0 causes) ++ ['\n'])

end Failure

namespace Task

def finish {m : Type → Type} [Monad m] (files : Files m) (path component : String) :
    m (Except Failure String) := do
  match ← files.write path component with
  | .error cause => return .error (.unwritten path cause)
  | .ok () => return .ok ("Built: " ++ path ++ "\n")

def readDesign {m : Type → Type} [Monad m] (files : Files m) (path : String) :
    m (Except Failure Node) := do
  match ← files.read path with
  | .error cause => return .error (.unread path cause)
  | .ok text => return (Node.ofText text).mapError (.undecoded path)

/-- Run a task; the result is what it tells of its success. -/
def run {m : Type → Type} [Monad m] (files : Files m) : Task → m (Except Failure String)
  | .build url name response out => do
    match ← SavedResponse.ofFile files response with
    | .error cause => return .error (.noResponse cause)
    | .ok saved =>
      match (Request.mk url name).handle (m := Id) saved.fetch with
      | .error cause => return .error (.noComponent name cause)
      | .ok reply => finish files (out.getD (Command.defaultOutput response name)) reply.component
  | .render path name out => do
    match ← readDesign files path with
    | .error failure => return .error failure
    | .ok root =>
      finish files (out.getD (Command.defaultOutput path name)) (Component.generate root name)
  | .check path => do
    match ← readDesign files path with
    | .error failure => return .error failure
    | .ok root =>
      return .ok ("OK: " ++ path ++ " (" ++ String.ofList (decimal root.count) ++
        " nodes, depth " ++ String.ofList (decimal root.depth) ++ ")\n")

end Task

structure Outcome where
  code : Nat
  output : String := ""
  errors : String := ""
deriving DecidableEq, Repr

namespace Outcome

def ofStop : Stop → Outcome
  | .help => ⟨0, "", ""⟩
  | .version => ⟨0, "figvue " ++ Component.version ++ "\n", ""⟩
  | .refused => ⟨2, "", ""⟩

def ofResult : Except Failure String → Outcome
  | .ok message => ⟨0, "", message⟩
  | .error failure => ⟨1, "", failure.report⟩

end Outcome

def Command.run {m : Type → Type} [Monad m] (files : Files m) (environment : String → Option String)
    (arguments : List String) : m Outcome :=
  match Task.ofArguments environment arguments with
  | .error stop => pure (.ofStop stop)
  | .ok task => do return .ofResult (← task.run files)

end DesignCompiler
