import DesignCompiler.Command.Files

set_option autoImplicit false

namespace DesignCompiler.Command

def splitStart : List Char → List Char × List Char
  | '/' :: cs => (['/'], cs)
  | ['.'] => (['.'], [])
  | '.' :: '/' :: cs => (['.'], '/' :: cs)
  | cs => ([], cs)

def dropHere (names : List (List Char)) : List (List Char) :=
  (names.reverse.dropWhile isHere).reverse

/-- The directory of a path as it is written, or nothing if the path has no last name. -/
def directory? (path : List Char) : Option (List Char) :=
  let (start, rest) := splitStart path
  let names := dropHere (Text.splitOn (· = '/') rest)
  if names.isEmpty then none
  else some (start ++ Text.joinWith '/' (dropHere names.dropLast))

/-- A path behind a directory. An absolute path stands for itself. -/
def join (directory path : List Char) : List Char :=
  if path.head? = some '/' then path
  else if directory.getLast? = some '/' then directory ++ path
  else directory ++ '/' :: path

def defaultOutput (input name : String) : String :=
  let directory := ((directory? input.toList).filter (!·.isEmpty)).getD ['.']
  String.ofList (join directory (name.toList ++ ".vue".toList))

end DesignCompiler.Command
