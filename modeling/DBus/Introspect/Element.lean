/-!
# Introspection elements

What an introspection document says about an object: its interfaces, with their methods, signals and
properties, in the order of the document.
-/

namespace DBus.Introspect

/-- Whether an argument goes to the object or comes from it. -/
inductive Direction where
  | input | output
  deriving DecidableEq, Repr

/-- What may be done with a property. -/
inductive Access where
  | read | write | readWrite
  deriving DecidableEq, Repr

/-- Whether a property can be read. -/
def Access.isReadable : Access → Bool
  | .read | .readWrite => true
  | .write => false

/-- Whether a property can be written. -/
def Access.isWritable : Access → Bool
  | .write | .readWrite => true
  | .read => false

/-- A note for tools. -/
structure Annotation where
  name : String
  value : String
  deriving DecidableEq, Repr

/-- A note for readers. -/
structure Doc where
  summary : Option String := none
  /-- The paragraph of the description. -/
  paragraph : Option String := none
  deriving DecidableEq, Repr, Inhabited

/-- An argument of a method or signal. -/
structure Argument where
  name : Option String
  type : String
  direction : Direction
  annotations : List Annotation
  doc : Doc
  deriving DecidableEq, Repr

/-- A method or a signal. -/
structure Member where
  name : String
  arguments : List Argument
  annotations : List Annotation
  doc : Doc
  deriving DecidableEq, Repr

/-- A property. -/
structure Property where
  name : String
  type : String
  access : Access
  annotations : List Annotation
  doc : Doc
  deriving DecidableEq, Repr

/-- An interface. -/
structure Interface where
  name : String
  methods : List Member
  signals : List Member
  properties : List Property
  annotations : List Annotation
  doc : Doc
  deriving DecidableEq, Repr

end DBus.Introspect
