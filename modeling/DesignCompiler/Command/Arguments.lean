set_option autoImplicit false

/-!
# Arguments

The first argument that is no option names a task; options stand in front of it or behind. An option
takes its value from behind its name, or from the next argument unless this looks like an option.
Nothing may be given twice.
-/
namespace DesignCompiler

inductive Task where
  | build (url name response : String) (out : Option String)
  | render (path name : String) (out : Option String)
  | check (path : String)
deriving DecidableEq, Repr

inductive Stop where
  | help
  | version
  | refused
deriving DecidableEq, Repr

namespace Command

inductive Verb where
  | build
  | render
  | check
deriving DecidableEq, Repr

def Verb.all : List Verb := [.build, .render, .check]

def Verb.name : Verb → String
  | .build => "build"
  | .render => "render"
  | .check => "check"

inductive Setting where
  | url
  | name
  | response
  | out
  | input
deriving DecidableEq, Repr

namespace Setting

def long? : Setting → Option String
  | .url => some "url"
  | .name => some "name"
  | .response => some "response"
  | .out => some "out"
  | .input => none

def short? : Setting → Option Char
  | .out => some 'o'
  | _ => none

def isPath : Setting → Bool
  | .response => true
  | .out => true
  | .input => true
  | _ => false

end Setting

def Verb.settings : Verb → List Setting
  | .build => [.url, .name, .response, .out]
  | .render => [.input, .name, .out]
  | .check => [.input]

structure Given where
  verbose : Bool := false
  values : List (Setting × String) := []
deriving DecidableEq, Repr

namespace Given

def get? (g : Given) (s : Setting) : Option String := g.values.lookup s

def set (g : Given) (s : Setting) (value : String) : Except Stop Given :=
  if (g.get? s).isSome || (s.isPath && value.isEmpty) then .error .refused
  else .ok { g with values := (s, value) :: g.values }

def setVerbose (g : Given) : Except Stop Given :=
  if g.verbose then .error .refused else .ok { g with verbose := true }

end Given

/-- The value behind a letter; an equals sign in front of it does not count. -/
def attached : List Char → String
  | '=' :: cs => String.ofList cs
  | cs => String.ofList cs

/-- Read the letters behind one dash. The last may be of a setting whose value comes next. -/
def readLetters (verb : Verb) (g : Given) : List Char → Except Stop (Given × Option Setting)
  | [] => .ok (g, none)
  | 'v' :: cs => do readLetters verb (← g.setVerbose) cs
  | 'h' :: _ => .error .help
  | c :: cs =>
    match verb.settings.find? fun s => s.short? = some c with
    | none => .error .refused
    | some s => if cs.isEmpty then .ok (g, some s) else do return (← g.set s (attached cs), none)

def readLong (verb : Verb) (g : Given) (cs : List Char) : Except Stop (Given × Option Setting) :=
  let name := String.ofList (cs.takeWhile (· ≠ '='))
  match cs.dropWhile (· ≠ '=') with
  | [] =>
    if name = "verbose" then do return (← g.setVerbose, none)
    else if name = "help" then .error .help
    else match verb.settings.find? fun s => s.long? = some name with
      | none => .error .refused
      | some s => .ok (g, some s)
  | _ :: value =>
    match verb.settings.find? fun s => s.long? = some name with
    | none => .error .refused
    | some s => do return (← g.set s (String.ofList value), none)

def readInput (verb : Verb) (g : Given) (value : String) : Except Stop Given :=
  if verb.settings.contains .input then g.set .input value else .error .refused

def readInputs (verb : Verb) (g : Given) : List String → Except Stop Given
  | [] => .ok g
  | value :: rest => do readInputs verb (← readInput verb g value) rest

/-- Whether an argument looks like an option; a lone dash does not. -/
def isOption (argument : String) : Bool :=
  argument.toList.head? = some '-' && argument ≠ "-"

/-- Read the arguments behind a verb. A setting may be waiting for its value. -/
def readArguments (verb : Verb) (g : Given) (waiting : Option Setting) :
    List String → Except Stop Given
  | [] => if waiting.isSome then .error .refused else .ok g
  | a :: rest =>
    match waiting with
    | some s =>
      if isOption a then .error .refused
      else do readArguments verb (← g.set s a) none rest
    | none =>
      if a = "--" then readInputs verb g rest
      else match a.toList with
        | '-' :: '-' :: cs => do
          let (g, waiting) ← readLong verb g cs
          readArguments verb g waiting rest
        | '-' :: c :: cs => do
          let (g, waiting) ← readLetters verb g (c :: cs)
          readArguments verb g waiting rest
        | _ => do readArguments verb (← readInput verb g a) none rest

def responseVariable : String := "FIGVUE_RESPONSE"

def need (value : Option String) : Except Stop String := value.elim (.error .refused) .ok

def Given.task (g : Given) (environment : String → Option String) : Verb → Except Stop Task
  | .build => do
    let fallback := (environment responseVariable).filter (!·.isEmpty)
    return .build (← need (g.get? .url)) (← need (g.get? .name))
      (← need ((g.get? .response).or fallback)) (g.get? .out)
  | .render => do
    return .render (← need (g.get? .input)) (← need (g.get? .name)) (g.get? .out)
  | .check => do return .check (← need (g.get? .input))

def readLeadingLetters (verbose : Bool) : List Char → Except Stop Bool
  | [] => .ok verbose
  | 'v' :: cs => if verbose then .error .refused else readLeadingLetters true cs
  | 'V' :: _ => .error .version
  | 'h' :: _ => .error .help
  | _ => .error .refused

def readLeading (verbose : Bool) (option : List Char) : Except Stop Bool :=
  match option with
  | '-' :: '-' :: cs =>
    let name := String.ofList cs
    if name = "verbose" then (if verbose then .error .refused else .ok true)
    else if name = "version" then .error .version
    else if name = "help" then .error .help
    else .error .refused
  | cs => readLeadingLetters verbose (cs.drop 1)

def readHelp : List String → Stop
  | [] => .help
  | [topic] => if topic = "help" || Verb.all.any (·.name = topic) then .help else .refused
  | _ => .refused

def readTask (environment : String → Option String) (verbose : Bool) :
    List String → Except Stop Task
  | [] => .error .refused
  | a :: rest =>
    if isOption a then do
      readTask environment (← readLeading verbose a.toList) rest
    else if a = "help" then .error (readHelp rest)
    else match Verb.all.find? fun verb => verb.name = a with
      | none => .error .refused
      | some verb => do (← readArguments verb {} none rest).task environment verb

end Command

def Task.ofArguments (environment : String → Option String) (arguments : List String) :
    Except Stop Task :=
  Command.readTask environment false arguments

end DesignCompiler
