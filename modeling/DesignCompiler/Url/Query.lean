import DesignCompiler.Text.Split
import DesignCompiler.Url.Percent

set_option autoImplicit false

namespace DesignCompiler.Url

def plusToSpace (c : Char) : Char := if c = '+' then ' ' else c

def decodePart (part : List Char) : List Char :=
  Text.decodeLenient (percentDecode (Text.encode (part.map plusToSpace)))

def decodePair (pair : List Char) : List Char × List Char :=
  (decodePart (pair.takeWhile (· ≠ '=')), decodePart ((pair.dropWhile (· ≠ '=')).drop 1))

def queryPairs (query : List Char) : List (List Char × List Char) :=
  ((Text.splitOn (· = '&') query).filter (!·.isEmpty)).map decodePair

end DesignCompiler.Url
