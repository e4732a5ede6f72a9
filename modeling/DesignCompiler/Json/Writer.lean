set_option autoImplicit false

namespace DesignCompiler.Json

def hexDigit (n : Nat) : Char := if n < 10 then Char.ofNat (48 + n) else Char.ofNat (87 + n)

def escapeChar (c : Char) : List Char :=
  if c = '"' then ['\\', '"']
  else if c = '\\' then ['\\', '\\']
  else if c = '\x08' then ['\\', 'b']
  else if c = '\t' then ['\\', 't']
  else if c = '\n' then ['\\', 'n']
  else if c = '\x0c' then ['\\', 'f']
  else if c = '\r' then ['\\', 'r']
  else if c.toNat < 0x20 then
    ['\\', 'u', '0', '0', hexDigit (c.toNat / 16), hexDigit (c.toNat % 16)]
  else [c]

def writeString (cs : List Char) : List Char := '"' :: (cs.flatMap escapeChar ++ ['"'])

def writeOption : Option String → List Char
  | some s => writeString s.toList
  | none => ['n', 'u', 'l', 'l']

def writeMember (m : String × List Char) : List Char := writeString m.1.toList ++ ':' :: m.2

def writeMembers : List (String × List Char) → List Char
  | [] => []
  | [m] => writeMember m
  | m :: ms => writeMember m ++ ',' :: writeMembers ms

def writeObject (members : List (String × List Char)) : List Char :=
  '{' :: (writeMembers members ++ ['}'])

end DesignCompiler.Json
