import DesignCompiler.Command.Run

set_option autoImplicit false

namespace DesignCompiler

def FileError.ofSystem : IO.Error → FileError
  | .noFileOrDirectory _ _ _ => .notFound
  | .inappropriateType _ code _ => if code = 21 then .isDirectory else .notDirectory
  | .invalidArgument _ 36 _ => .nameTooLong
  | e => .other (toString e)

def systemFiles : Files IO where
  read path := do
    match ← (IO.FS.readBinFile path).toBaseIO with
    | .error e => return .error (.ofSystem e)
    | .ok bytes => return textOfBytes bytes.toList
  write path text := do
    match ← (IO.FS.writeFile path text).toBaseIO with
    | .error e => return .error (.ofSystem e)
    | .ok () => return .ok ()

end DesignCompiler

open DesignCompiler in
def main (arguments : List String) : IO UInt32 := do
  let response ← IO.getEnv Command.responseVariable
  let environment (name : String) := if name = Command.responseVariable then response else none
  let outcome ← Command.run systemFiles environment arguments
  IO.print outcome.output
  IO.eprint outcome.errors
  return UInt32.ofNat outcome.code
