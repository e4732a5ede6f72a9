import DesignCompiler.Text.Utf8

set_option autoImplicit false

namespace DesignCompiler

inductive FileError where
  | notFound
  | notDirectory
  | isDirectory
  | nameTooLong
  | notText
  | other (message : String)
deriving DecidableEq, Repr

def FileError.message : FileError → String
  | .notFound => "No such file or directory (os error 2)"
  | .notDirectory => "Not a directory (os error 20)"
  | .isDirectory => "Is a directory (os error 21)"
  | .nameTooLong => "File name too long (os error 36)"
  | .notText => "stream did not contain valid UTF-8"
  | .other message => message

/-- Text of files, as far as a program needs it, in a monad `m`. -/
structure Files (m : Type → Type) where
  read : String → m (Except FileError String)
  write : String → String → m (Except FileError Unit)

def textOfBytes (bytes : List UInt8) : Except FileError String :=
  match Text.decode? bytes with
  | some cs => .ok (String.ofList cs)
  | none => .error .notText

end DesignCompiler
