import DBus.Bindings.Generate
import DBus.Files.Tree

/-!
# Projects

A project names the documents to generate bindings from. Documents that cannot be loaded are left
out, and why is told before all that is wrong with the others. The bindings can be written to a
directory: a file for each unit, and one that holds them all.
-/

namespace DBus.Bindings

open Files (Tree OnFiles FileError)

/-- A document of a project. -/
structure Source where
  /-- The file with the document. -/
  path : String
  /-- The text of the mode. -/
  mode : String
  deriving DecidableEq, Repr

/-- What bindings are generated from, and the crate that they use. -/
structure Project where
  sources : List Source
  crate : String := defaultCrate
  deriving DecidableEq, Repr

namespace Project

/-- Loads the text of a document that is to have a mode. -/
def loadText (source : Source) (text : String) : Except BindingError (Document × Mode) :=
  match Document.parse text with
  | .error e => .error (.load source.path e)
  | .ok document =>
    if document.interfaces.isEmpty then .error (.noInterfaces source.path)
    else
      match Mode.parse source.mode with
      | .error word => .error (.document source.path word)
      | .ok mode => .ok (document, mode)

/-- Loads a document. -/
def load (t : Tree) (source : Source) : Except BindingError (Document × Mode) :=
  match Files.readText source.path t with
  | .ok text _ => loadText source text
  | .error e _ => .error (.read source.path e)

/-- The documents that can be loaded. -/
def documents (p : Project) (t : Tree) : List (Document × Mode) :=
  p.sources.filterMap fun s => (load t s).toOption

/-- Why documents cannot be loaded. -/
def loadErrors (p : Project) (t : Tree) : List BindingError :=
  p.sources.filterMap fun s =>
    match load t s with
    | .ok _ => none
    | .error e => some e

/-- The bindings of a project. -/
def generate (p : Project) (t : Tree) : Generated :=
  let g := Bindings.generate (p.documents t) p.crate
  { g with errors := p.loadErrors t ++ g.errors }

/-! ### Writing -/

/-- The name of the file that holds all units. -/
def moduleFile : String := "mod.rs"

/-- An action on files; what fails is the writing of a path. -/
def writing (path : String) (action : OnFiles Unit) : EStateM BindingError Tree Unit :=
  action.adaptExcept (.write path)

/-- Writes a file of a directory. -/
def writeFile (directory name text : String) : EStateM BindingError Tree Unit :=
  let path := Files.joinPath directory name
  writing path (Files.write path text.toUTF8)

/-- Writes units, each to its file. -/
def writeUnits (directory : String) : List CodeUnit → EStateM BindingError Tree Unit
  | [] => return
  | u :: rest => do
    writeFile directory u.fileName u.text
    writeUnits directory rest

/-- Generates the bindings of a project and writes them to a directory. -/
def writeTo (p : Project) (directory : String) : EStateM BindingError Tree Generated := do
  let g := p.generate (← get)
  writing directory (Files.makeDirectories directory)
  writeUnits directory g.units
  writeFile directory moduleFile g.text
  return g

end Project

end DBus.Bindings
