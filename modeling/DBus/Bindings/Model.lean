import DBus.Introspect.Load

/-!
# Interfaces to generate bindings for

What the generator needs to know of an interface: the arguments of a method parted by direction, and
of the documentation one text.
-/

namespace DBus.Bindings

export Introspect (Access)

/-- An argument. -/
structure Argument where
  name : Option String
  signature : String
  deriving DecidableEq, Repr

/-- A method. -/
structure Method where
  name : String
  inputs : List Argument
  outputs : List Argument
  doc : Option String
  deriving DecidableEq, Repr

/-- A signal. -/
structure Signal where
  name : String
  arguments : List Argument
  doc : Option String
  deriving DecidableEq, Repr

/-- A property. -/
structure Property where
  name : String
  signature : String
  access : Access
  doc : Option String
  deriving DecidableEq, Repr

/-- An interface. -/
structure Interface where
  name : String
  methods : List Method
  signals : List Signal
  properties : List Property
  doc : Option String
  deriving DecidableEq, Repr

/-- The interfaces of one document. -/
structure Document where
  interfaces : List Interface
  deriving DecidableEq, Repr

/-- The summary of a `doc`, or else its paragraph, unless it is blank. -/
def docText (doc : Introspect.Doc) : Option String :=
  match doc.summary.or doc.paragraph with
  | some text =>
    let text := Text.trim text
    if text.isEmpty then none else some text
  | none => none

/-- The argument that an element describes. -/
def Argument.ofElement (a : Introspect.Argument) : Argument := ⟨a.name, a.type⟩

/-- The method that an element describes. -/
def Method.ofElement (m : Introspect.Member) : Method :=
  { name := m.name
    inputs := (m.arguments.filter (·.direction = .input)).map .ofElement
    outputs := (m.arguments.filter (·.direction = .output)).map .ofElement
    doc := docText m.doc }

/-- The signal that an element describes. -/
def Signal.ofElement (s : Introspect.Member) : Signal :=
  ⟨s.name, s.arguments.map .ofElement, docText s.doc⟩

/-- The property that an element describes. -/
def Property.ofElement (p : Introspect.Property) : Property :=
  ⟨p.name, p.type, p.access, docText p.doc⟩

/-- The interface that an element describes. -/
def Interface.ofElement (i : Introspect.Interface) : Interface :=
  { name := i.name
    methods := i.methods.map .ofElement
    signals := i.signals.map .ofElement
    properties := i.properties.map .ofElement
    doc := docText i.doc }

/-- The document that a text is, given what cuts a text into tokens. -/
def Document.parseWith (tokenize : String → Markup.Tokens) (text : String) :
    Except Introspect.LoadError Document := do
  return ⟨(← Introspect.loadWith tokenize text).map .ofElement⟩

/-- The document that a text is. -/
def Document.parse (text : String) : Except Introspect.LoadError Document :=
  Document.parseWith Markup.tokens text

end DBus.Bindings
