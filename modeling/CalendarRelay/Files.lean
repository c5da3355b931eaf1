import CalendarRelay.Text.Scan

namespace CalendarRelay

/-- What is found at a path. -/
inductive FileState
  | missing
  | directory
  | content (bytes : ByteArray)

namespace FileState

def ofText (text : String) : FileState := .content text.toUTF8

def isMissing : FileState → Bool
  | missing => true
  | _ => false

def isDirectory : FileState → Bool
  | directory => true
  | _ => false

end FileState

/-- A place in the file system by the names that lead to it from the root, where the service
works. -/
abbrev Place := List String

namespace Place

/-- The names of a path; empty names and single dots lead nowhere. -/
def parts (path : String) : List String :=
  ((Text.fieldsOf '/' path.toList).map String.ofList).filter fun s => s != "" && s != "."

/-- The place that a path leads to, where two dots lead back. -/
def ofPath (path : String) : Place :=
  (parts path).foldl (fun place s => if s = ".." then place.dropLast else place ++ [s]) []

/-- The places that names lead to from a place only to be left again by two dots. -/
def detours (place : Place) : List String → List Place
  | [] => []
  | s :: rest =>
    if s = ".." then place :: detours place.dropLast rest else detours (place ++ [s]) rest

/-- The path of a name in a directory. A name that starts at the root is a path of its own. -/
def join (directory name : String) : String :=
  if name.toList.head? = some '/' then name
  else if directory = "" ∨ directory.toList.getLast? = some '/' then directory ++ name
  else directory ++ "/" ++ name

end Place

structure Files where
  entries : List (Place × FileState) := []

namespace Files

/-- What is found at a place; there is always a directory at the outset. -/
def stateAt (fs : Files) (place : Place) : FileState :=
  if place = [] then .directory
  else ((fs.entries.find? fun e => e.1 == place).map Prod.snd).getD .missing

/-- What is found at a path. Two dots lead back from directories only. -/
def get (fs : Files) (path : String) : FileState :=
  if (Place.detours [] (Place.parts path)).all fun place => (fs.stateAt place).isDirectory then
    fs.stateAt (Place.ofPath path)
  else .missing

def erase (fs : Files) (place : Place) : Files := ⟨fs.entries.filter fun e => e.1 != place⟩

def put (fs : Files) (place : Place) (state : FileState) : Files :=
  ⟨(place, state) :: (fs.erase place).entries⟩

/-- The directories that lead to a place. -/
def parents (place : Place) : List Place :=
  (List.range (place.length - 1)).map fun n => place.take (n + 1)

/-- The files with one more, whose directories are made as needed. -/
def install (fs : Files) (path : String) (state : FileState) : Files :=
  let place := Place.ofPath path
  let directories := parents place ++ Place.detours [] (Place.parts path)
  (directories.foldl (fun fs p => fs.put p .directory) fs).put place state

/-- A change of files: what they are after it, and the places that it touches. -/
structure Change where
  files : Files
  touched : List Place

/-- A change that could not be made. -/
def refused (fs : Files) : Change := ⟨fs, []⟩

def hasParent (fs : Files) (place : Place) : Bool := (fs.stateAt place.dropLast).isDirectory

def write (fs : Files) (path : String) (bytes : ByteArray) : Change :=
  let place := Place.ofPath path
  if fs.hasParent place && !(fs.stateAt place).isDirectory then
    ⟨fs.put place (.content bytes), [place]⟩
  else fs.refused

def makeDirectory (fs : Files) (path : String) : Change :=
  let place := Place.ofPath path
  if fs.hasParent place && (fs.stateAt place).isMissing then
    ⟨fs.put place .directory, [place]⟩
  else fs.refused

def remove (fs : Files) (path : String) : Change :=
  let place := Place.ofPath path
  match fs.stateAt place with
  | .content _ => ⟨fs.erase place, [place]⟩
  | _ => fs.refused

/-- Moves what is found at one path to another, with all that is within it. -/
def rename (fs : Files) (source destination : String) : Change :=
  let a := Place.ofPath source
  let b := Place.ofPath destination
  if (fs.stateAt a).isMissing || !fs.hasParent b || a.isPrefixOf b then fs.refused
  else
    let moved := (fs.erase b).entries.map fun e =>
      if a.isPrefixOf e.1 then (b ++ e.1.drop a.length, e.2) else e
    ⟨⟨moved⟩, [a, b]⟩

end Files

end CalendarRelay
