import DBus.Text.Split

/-!
# File trees

The files and directories below a working directory. A place is given by the names that lead to it,
`..` standing for a step up where it comes first. A path is walked name by name, and every name but
the last must be that of a directory; what lies outside the tree is directories without files. An
action on files that fails says why, with the number that the system has for it.
-/

namespace DBus.Files

/-- Why an operation on a file failed. -/
inductive FileError where
  | notFound
  | exists
  | notADirectory
  | isADirectory
  | nameTooLong
  | notUtf8
  | nulInName
  deriving DecidableEq, Repr

/-- The wording of an error, with its number where the system has one for it. -/
def FileError.message : FileError → String
  | .notFound => "No such file or directory (os error 2)"
  | .exists => "File exists (os error 17)"
  | .notADirectory => "Not a directory (os error 20)"
  | .isADirectory => "Is a directory (os error 21)"
  | .nameTooLong => "File name too long (os error 36)"
  | .notUtf8 => "stream did not contain valid UTF-8"
  | .nulInName => "file name contained an unexpected NUL byte"

/-- What is at a place. -/
inductive Entry where
  | file (content : ByteArray)
  | directory

/-- A place, by the names that lead to it from the working directory. -/
abbrev Place := List String

/-- The files and directories below a working directory. -/
structure Tree where
  /-- What is at which place, the working directory and what lies above it apart. -/
  entries : List (Place × Entry) := []
  deriving Inhabited

/-- Actions on files. -/
abbrev OnFiles := EStateM FileError Tree

/-! ### Places -/

namespace Place

/-- The place one step up. -/
def parent : Place → Place
  | [] => [".."]
  | place => if place.getLast? = some ".." then place ++ [".."] else place.dropLast

/-- Whether a place is the working directory or lies above it. -/
def isAbove (place : Place) : Bool :=
  place.all fun name => name == ".." || name == "/"

end Place

namespace Tree

/-- What is at a place. -/
def entryAt (t : Tree) (place : Place) : Option Entry :=
  if place.isAbove then some .directory else t.entries.lookup place

/-- The tree with an entry at a place. -/
def put (t : Tree) (place : Place) (e : Entry) : Tree :=
  ⟨(place, e) :: t.entries.filter fun old => old.1 ≠ place⟩

/-- The files directly in a directory, by name. -/
def filesIn (t : Tree) (directory : Place) : List (String × ByteArray) :=
  t.entries.filterMap fun (place, e) =>
    match place.getLast?, e with
    | some name, .file content => if place.dropLast = directory then some (name, content) else none
    | _, _ => none

end Tree

/-! ### Paths -/

/-- The names of a path between its slashes. An empty name stands still. -/
def namesOf (path : String) : List String :=
  Text.split '/' path

/-- Where a path starts. -/
def startOf (path : String) : Place :=
  if path.toList.head? = some '/' then ["/"] else []

/-- A name has at most this many bytes. -/
def maxNameLength : Nat := 255

/-- A path has less than this many bytes. -/
def maxPathLength : Nat := 4096

/-- Refuses a path that no file can have. -/
def checkPath (path : String) : OnFiles Unit := do
  if path.toList.contains '\x00' then throw .nulInName
  if path.isEmpty then throw .notFound
  if maxPathLength ≤ path.utf8ByteSize then throw .nameTooLong

/-- Refuses a name that no file can have. -/
def checkName (name : String) : OnFiles Unit :=
  if maxNameLength < name.utf8ByteSize then throw .nameTooLong else pure ()

/-- Refuses a place that is no directory. -/
def checkDirectory (place : Place) : OnFiles Unit := do
  match (← get).entryAt place with
  | some .directory => return
  | some (.file _) => throw .notADirectory
  | none => throw .notFound

/-- Walks from a place by names, all but the last of which must lead to directories. -/
def walk (place : Place) : List String → OnFiles Place
  | [] => return place
  | name :: rest => do
    checkDirectory place
    if name = "" ∨ name = "." then walk place rest
    else if name = ".." then walk place.parent rest
    else do
      checkName name
      walk (place ++ [name]) rest

/-- The place that a path leads to. -/
def resolve (path : String) : OnFiles Place := do
  checkPath path
  walk (startOf path) (namesOf path)

/-! ### Reading and writing -/

/-- The text of a file. -/
def readText (path : String) : OnFiles String := do
  match (← get).entryAt (← resolve path) with
  | none => throw .notFound
  | some .directory => throw .isADirectory
  | some (.file content) =>
    match String.fromUTF8? content with
    | some text => return text
    | none => throw .notUtf8

/-- Writes a file, in place of what was in it. -/
def write (path : String) (content : ByteArray) : OnFiles Unit := do
  let place ← resolve path
  match (← get).entryAt place with
  | some .directory => throw .isADirectory
  | _ => modify (·.put place (.file content))

/-- The files directly in a directory, by name. -/
def list (path : String) : OnFiles (List (String × ByteArray)) := do
  let place ← resolve path
  checkDirectory place
  return (← get).filesIn place

/-! ### Making directories -/

/-- Makes the directory that names lead to, where nothing is yet. -/
def makeDirectory (start : Place) (names : List String) : OnFiles Unit := do
  let place ← walk start names.dropLast
  checkDirectory place
  match names.getLast? with
  | none => throw .exists
  | some name =>
    if name = "." ∨ name = ".." then throw .exists
    checkName name
    if ((← get).entryAt (place ++ [name])).isSome then throw .exists
    modify (·.put (place ++ [name]) .directory)

/-- Refuses names that do not lead to a directory. -/
def checkLeads (start : Place) (names : List String) : OnFiles Unit := do
  checkDirectory (← walk start names)

/-- Makes the directory that names lead to, unless it is there. -/
def ensureDirectory (start : Place) (names : List String) : OnFiles Unit :=
  tryCatch (makeDirectory start names) fun failure =>
    tryCatch (checkLeads start names) fun _ => throw failure

/-- The names that lead to what holds a directory. -/
def holder (names : List String) : List String :=
  (names.filter fun name => name ≠ "" ∧ name ≠ ".").dropLast

theorem length_holder_lt {names : List String} (h : names ≠ []) :
    (holder names).length < names.length := by
  have kept := List.length_filter_le (fun name => decide (name ≠ "" ∧ name ≠ ".")) names
  have some := List.length_pos_iff.2 h
  simp only [holder, List.length_dropLast]
  omega

/-- Makes the directory that names lead to. Where what holds it is missing, that is made first. -/
def ensureWay (start : Place) : List String → OnFiles Unit
  | [] => return
  | name :: rest =>
    tryCatch (ensureDirectory start (name :: rest)) fun failure => do
      if failure ≠ .notFound then throw failure
      ensureWay start (holder (name :: rest))
      ensureDirectory start (name :: rest)
termination_by names => names.length
decreasing_by exact length_holder_lt (List.cons_ne_nil name rest)

/-- A list of names without the empty ones it ends in. -/
def withoutTrail (names : List String) : List String :=
  (names.reverse.dropWhile (· == "")).reverse

/-- Makes a directory, and those on the way to it that are missing. -/
def makeDirectories (path : String) : OnFiles Unit := do
  if path.isEmpty then return
  checkPath path
  ensureWay (startOf path) (withoutTrail (namesOf path))

/-- The path of a file in a directory. -/
def joinPath (directory name : String) : String :=
  if directory.isEmpty || directory.toList.getLast? == some '/' then directory ++ name
  else directory ++ "/" ++ name

end DBus.Files
