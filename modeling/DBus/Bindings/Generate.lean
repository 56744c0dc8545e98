import DBus.Bindings.Handler
import DBus.Bindings.Lexeme
import DBus.Bindings.Mode
import DBus.Bindings.Proxy

/-!
# Generating bindings

Documents may declare the same interface several times. The first definition counts, in the modes of
all the documents that declare it; the order is that of first appearance. Bindings are generated for
every interface that has a mode and whose signatures are right. The
routines that they ask for are made on the way, if earlier bindings did not ask for them, and come
last, in one unit for each direction.
-/

namespace DBus.Bindings

/-! ### Merging documents -/

/-- Adds an interface in a mode; of one that is there already only the mode is added. -/
def addInterface (merged : List (Interface × Mode)) (i : Interface) (mode : Mode) :
    List (Interface × Mode) :=
  match merged with
  | [] => [(i, mode)]
  | (j, m) :: rest =>
    if j.name = i.name then (j, m.union mode) :: rest else (j, m) :: addInterface rest i mode

/-- The interfaces of some documents, each once. -/
def merge (documents : List (Document × Mode)) : List (Interface × Mode) :=
  documents.foldl (fun merged d =>
    d.1.interfaces.foldl (fun merged i => addInterface merged i d.2) merged) []

/-! ### Units -/

/-- What a unit of generated code holds. -/
inductive UnitKind where
  | proxy | handler | readers | writers
  deriving DecidableEq, Repr

/-- A unit of generated code. -/
structure CodeUnit where
  name : String
  kind : UnitKind
  code : Code

namespace CodeUnit

/-- The file that a unit is written to. -/
def fileName (u : CodeUnit) : String :=
  snakeCase u.name ++ ".rs"

/-- The text of a unit. -/
def text (u : CodeUnit) : String :=
  Code.print u.code

/-- A unit as a part of one module: routines are in a module of their own. -/
def inModule (u : CodeUnit) : Code :=
  match u.kind with
  | .proxy | .handler => u.code
  | .readers | .writers =>
    [.fixed "# [allow (dead_code , unused_mut , clippy :: all)] pub mod", .define (.plain u.name),
      Code.brace u.code]

end CodeUnit

/-- What was generated, and why some of it is missing. -/
structure Generated where
  units : List CodeUnit
  errors : List BindingError

namespace Generated

/-- The first unit with a name. -/
def unit? (g : Generated) (name : String) : Option CodeUnit :=
  g.units.find? fun u => u.name == name

/-- All units as the body of one module. -/
def module (g : Generated) : Code :=
  g.units.flatMap (·.inModule)

/-- The text of all units as the body of one module. -/
def text (g : Generated) : String :=
  Code.print g.module

end Generated

/-! ### Interfaces one after the other -/

namespace Generate

/-- The struct of properties of an interface, if it has properties. -/
def propertiesCode (rt : String) (i : ResolvedInterface) : Generator Code :=
  if i.properties.isEmpty then return [] else PropertiesStruct.code rt i

/-- The proxy of an interface as a unit. -/
def proxyUnit (rt : String) (i : ResolvedInterface) (properties : Code) : Generator CodeUnit := do
  return ⟨i.typeName ++ "Proxy", .proxy, properties ++ (← Proxy.code rt i)⟩

/-- The handler of an interface as a unit. -/
def handlerUnit (rt : String) (i : ResolvedInterface) (properties : Code) : Generator CodeUnit := do
  return ⟨i.typeName ++ "Handler", .handler, properties ++ (← Handler.code rt i)⟩

/-- A unit, if it is wanted. -/
def unitIf (wanted : Bool) (unit : Generator CodeUnit) : Generator (List CodeUnit) :=
  if wanted then do return [← unit] else return []

/-- The units of an interface. The struct of properties is part of the first of them. -/
def units (rt : String) (i : ResolvedInterface) (mode : Mode) : Generator (List CodeUnit) := do
  let properties ← propertiesCode rt i
  let isProxy := mode.meets .proxy
  let proxies ← unitIf isProxy (proxyUnit rt i properties)
  let handlers ← unitIf (mode.meets .handler)
    (handlerUnit rt i (if isProxy then [] else properties))
  return proxies ++ handlers

/-- What has been generated so far. -/
structure Progress where
  units : List CodeUnit := []
  synthesis : Synthesis := {}
  errors : List BindingError := []

/-- Generates the bindings of one more interface. -/
def addInterface (rt : String) (p : Progress) (i : Interface) (mode : Mode) : Progress :=
  if mode.isEmpty then p
  else
    match resolve i with
    | .error e => { p with errors := p.errors ++ [e] }
    | .ok r =>
      let (new, synthesis) := (units rt r mode).run rt p.synthesis
      { p with units := p.units ++ new, synthesis }

/-- What is generated in the end. -/
def finish (p : Progress) : Generated where
  units := p.units ++ [⟨"readers", .readers, p.synthesis.code .read⟩,
    ⟨"writers", .writers, p.synthesis.code .write⟩]
  errors := p.errors

end Generate

/-- Generates the bindings of some documents for a runtime crate. -/
def generate (documents : List (Document × Mode)) (crate : String) : Generated :=
  let rt := runtimePath crate
  Generate.finish
    ((merge documents).foldl (fun p m => Generate.addInterface rt p m.1 m.2) {})

end DBus.Bindings
