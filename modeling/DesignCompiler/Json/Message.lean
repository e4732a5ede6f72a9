import DesignCompiler.Json.Problem
import DesignCompiler.Text.Quoted

set_option autoImplicit false

namespace DesignCompiler.Json

def Record.describe (r : Record) : String := "struct " ++ r.name

def Expected.describe : Expected → String
  | .string => "a string"
  | .sequence => "a sequence"
  | .map => "a map"
  | .record r => r.describe

def Number.describe : Number → String
  | .natural n => "integer `" ++ String.ofList (decimal n) ++ "`"
  | .negative n => "integer `" ++ String.ofList (decimalInt n) ++ "`"
  | .real x => "floating point `" ++ String.ofList x.messageText ++ "`"

def Found.describe : Found → String
  | .null => "null"
  | .boolean b => "boolean `" ++ (if b then "true" else "false") ++ "`"
  | .number n => n.describe
  | .string s => "string " ++ String.ofList (Text.quote s.toList)
  | .sequence => "sequence"
  | .map => "map"

def Problem.message : Problem → String
  | .endInList => "EOF while parsing a list"
  | .endInObject => "EOF while parsing an object"
  | .endInString => "EOF while parsing a string"
  | .endInValue => "EOF while parsing a value"
  | .expectedColon => "expected `:`"
  | .expectedListEnd => "expected `,` or `]`"
  | .expectedObjectEnd => "expected `,` or `\x7d`"
  | .expectedWord => "expected ident"
  | .expectedValue => "expected value"
  | .keyNotString => "key must be a string"
  | .invalidEscape => "invalid escape"
  | .invalidNumber => "invalid number"
  | .numberOutOfRange => "number out of range"
  | .loneSurrogate => "lone leading surrogate in hex escape"
  | .unfinishedSurrogatePair => "unexpected end of hex escape"
  | .controlCharacter =>
    "control character (\\u0000-\\u001F) found while parsing a string"
  | .trailingComma => "trailing comma"
  | .trailingCharacters => "trailing characters"
  | .nestedTooDeep => "recursion limit exceeded"
  | .invalidType found expected =>
    "invalid type: " ++ found.describe ++ ", expected " ++ expected.describe
  | .tooFewElements count r =>
    let size := r.fields.length
    "invalid length " ++ String.ofList (decimal count) ++ ", expected " ++ r.describe ++ " with " ++
      String.ofList (decimal size) ++ (if size = 1 then " element" else " elements")
  | .tooManyElements count =>
    "invalid length " ++ String.ofList (decimal count) ++ ", expected fewer elements in array"
  | .missingField name => "missing field `" ++ name ++ "`"
  | .duplicateField name => "duplicate field `" ++ name ++ "`"

def Position.describe (p : Position) : String :=
  " at line " ++ String.ofList (decimal p.line) ++ " column " ++ String.ofList (decimal p.column)

def Error.message (e : Error) : String :=
  match e.position with
  | some p => e.problem.message ++ p.describe
  | none => e.problem.message

end DesignCompiler.Json
