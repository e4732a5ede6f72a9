import DesignCompiler.Source.Files
import DesignCompiler.Text.Split

set_option autoImplicit false

namespace DesignCompiler

inductive Entry where
  | file (bytes : List UInt8)
  | directory
deriving DecidableEq, Repr

abbrev Place := List (List Char)

/-- Entries with their places, and the place of the working directory. The directories on the way
there need no entry. -/
structure FileTree where
  entries : List (Place × Entry)
  here : Place
deriving DecidableEq, Repr

def isHere (name : List Char) : Bool := name.isEmpty || name = ['.']

def isUp (name : List Char) : Bool := name = ['.', '.']

def nameLimit : Nat := 255

def pathLimit : Nat := 4095

namespace FileTree

def find? (t : FileTree) (place : Place) : Option Entry :=
  if place.isPrefixOf t.here then some .directory else t.entries.lookup place

/-- Walk on from a place. What is walked from must be a directory, and what is reached may be
missing. Above the root is the root. -/
def walk (t : FileTree) (place : Place) : List (List Char) → Except FileError Place
  | [] => .ok place
  | name :: names =>
    match t.find? place with
    | none => .error .notFound
    | some (.file _) => .error .notDirectory
    | some .directory =>
      if isHere name then t.walk place names
      else if isUp name then t.walk place.dropLast names
      else if nameLimit < (Text.encode name).length then .error .nameTooLong
      else t.walk (place ++ [name]) names

def start (t : FileTree) (path : List Char) : Place :=
  if path.head? = some '/' then [] else t.here

def locate (t : FileTree) (path : List Char) : Except FileError Place :=
  if pathLimit < (Text.encode path).length then .error .nameTooLong
  else t.walk (t.start path) (Text.splitOn (· = '/') path)

def readText (t : FileTree) (path : String) : Except FileError String := do
  match t.find? (← t.locate path.toList) with
  | none => throw .notFound
  | some .directory => throw .isDirectory
  | some (.file bytes) => textOfBytes bytes

def put (t : FileTree) (place : Place) (bytes : List UInt8) : FileTree :=
  { t with entries := t.entries.filter (·.1 ≠ place) ++ [(place, .file bytes)] }

theorem lookup_filter_self (es : List (Place × Entry)) (place : Place) :
    (es.filter (·.1 ≠ place)).lookup place = none := by
  induction es with
  | nil => rfl
  | cons e es ih =>
    obtain ⟨p, x⟩ := e
    by_cases hp : p = place
    · rw [List.filter_cons_of_neg (by simp [hp]), ih]
    · have hne : (place == p) = false := beq_eq_false_iff_ne.2 fun he => hp he.symm
      rw [List.filter_cons_of_pos (by simp [hp]), List.lookup_cons, hne]
      exact ih

theorem lookup_filter_of_ne (es : List (Place × Entry)) {place other : Place}
    (h : other ≠ place) : (es.filter (·.1 ≠ place)).lookup other = es.lookup other := by
  induction es with
  | nil => rfl
  | cons e es ih =>
    obtain ⟨p, x⟩ := e
    by_cases hp : p = place
    · have hne : (other == p) = false := beq_eq_false_iff_ne.2 (hp ▸ h)
      rw [List.filter_cons_of_neg (by simp [hp]), ih, List.lookup_cons, hne]
    · rw [List.filter_cons_of_pos (by simp [hp]), List.lookup_cons, List.lookup_cons, ih]

theorem find?_of_not_directory {t : FileTree} {place : Place} (h : t.find? place ≠ some .directory) :
    place.isPrefixOf t.here = false :=
  Bool.eq_false_iff.2 fun hprefix => h (if_pos hprefix)

theorem find?_put_self (t : FileTree) {place : Place} (bytes : List UInt8)
    (h : t.find? place ≠ some .directory) :
    (t.put place bytes).find? place = some (.file bytes) := by
  simp only [find?, put, find?_of_not_directory h, List.lookup_append, lookup_filter_self]
  simp

theorem find?_put_of_ne (t : FileTree) {place other : Place} (bytes : List UInt8)
    (h : other ≠ place) : (t.put place bytes).find? other = t.find? other := by
  have hne : (other == place) = false := beq_eq_false_iff_ne.2 h
  simp only [find?, put, List.lookup_append, lookup_filter_of_ne t.entries h, List.lookup_cons,
    List.lookup_nil, hne]
  simp

/-- The place where a file may be written. A path that ends in a slash names a directory. -/
def target (t : FileTree) (path : List Char) : Except FileError Place := do
  let slashes := path.reverse.takeWhile (· = '/')
  let place ← t.locate (path.take (path.length - slashes.length))
  if !slashes.isEmpty || t.find? place = some .directory then throw .isDirectory
  return place

def writeText (t : FileTree) (path text : String) : Except FileError FileTree := do
  return t.put (← t.target path.toList) (Text.encode text.toList)

def files (t : FileTree) : List (String × List UInt8) :=
  t.entries.filterMap fun
    | (place, .file bytes) =>
      if t.here.isPrefixOf place then
        some (String.ofList (Text.joinWith '/' (place.drop t.here.length)), bytes)
      else none
    | (_, .directory) => none

def written (t before : FileTree) : List (String × List UInt8) :=
  t.files.filter fun f => before.files.lookup f.1 ≠ some f.2

def parents (place : Place) : List Place :=
  (List.range place.length).tail.map place.take

def add (t : FileTree) (path : String) (entry : Entry) : FileTree :=
  let place := t.here ++ (Text.splitOn (· = '/') path.toList).filter (!isHere ·)
  let missing := (parents place).filter fun p => (t.find? p).isNone
  { t with
    entries := t.entries.filter (·.1 ≠ place) ++ missing.map (·, .directory) ++ [(place, entry)] }

/-- The files of a tree, where what is written is there afterwards. -/
def access : Files (StateM FileTree) where
  read path := fun t => (t.readText path, t)
  write path text := fun t =>
    match t.writeText path text with
    | .ok t => (.ok (), t)
    | .error e => (.error e, t)

end FileTree
end DesignCompiler
