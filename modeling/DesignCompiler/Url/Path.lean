import DesignCompiler.Text.Split
import DesignCompiler.Url.Percent

set_option autoImplicit false

namespace DesignCompiler.Url

abbrev Segment := List Char

/-- The spellings of a dot. -/
def isDot (c : Segment) : Bool := c = ['.'] || c = ['%', '2', 'e'] || c = ['%', '2', 'E']

def isSingleDot (s : Segment) : Bool := isDot s

def isDoubleDot (s : Segment) : Bool :=
  (isDot (s.take 1) && isDot (s.drop 1)) || (isDot (s.take 3) && isDot (s.drop 3))

def isLetter (c : Char) : Bool := ('a' ≤ c && c ≤ 'z') || ('A' ≤ c && c ≤ 'Z')

def isDriveLetter : Segment → Bool
  | [c, d] => isLetter c && (d = ':' || d = '|')
  | _ => false

def isDrive : Segment → Bool
  | [c, d] => isLetter c && d = ':'
  | _ => false

def leave (path : List Segment) : List Segment :=
  match path.getLast? with
  | some s => if isDriveLetter s then path else path.dropLast
  | none => []

/-- Add a written segment to a path. Behind it the path goes on unless it is the `last`: then what
stands for a dot leaves an empty segment. -/
def addSegment (file : Bool) (path : List Segment) (written : Segment) (last : Bool) :
    List Segment :=
  let s := percentEncode inPathSet written
  let ending : List Segment := if last then [[]] else []
  if file && path.isEmpty && isDrive (s.take 2) && s.length > 2 then
    [s.take 2, s.drop 2]
  else if isDoubleDot s then leave path ++ ending
  else if isSingleDot s then path ++ ending
  else if file && path.isEmpty && isDriveLetter s then [s.take 1 ++ [':']]
  else path ++ [s]

def addSegments (file : Bool) (path : List Segment) : List Segment → List Segment
  | [] => path
  | [s] => addSegment file path s true
  | s :: rest => addSegments file (addSegment file path s false) rest

/-- The path that a text behind its leading slash writes. In the URL of a file, empty segments in
front do not count. -/
def pathOf (file : Bool) (isSeparator : Char → Bool) (text : List Char) : List Segment :=
  let path := addSegments file [] (Text.splitOn isSeparator text)
  if file then
    match path.dropWhile List.isEmpty with
    | [] => [[]]
    | path => path
  else path

end DesignCompiler.Url
