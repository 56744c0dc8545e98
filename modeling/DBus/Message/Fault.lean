import DBus.Error

/-!
# Faults

What an object answers with instead of a result: the name of an error and a text for people. An error
met while a call is served becomes a fault; one that was a fault before, sent by another object, stays
the same.
-/

namespace DBus

/-- An error as it is sent to a caller. -/
structure Fault where
  /-- The name of the error, such as `org.freedesktop.DBus.Error.Failed`. -/
  name : String
  /-- What people are told. -/
  text : String
  deriving DecidableEq, Repr, Inhabited

namespace Fault

/-- The fault with one of the standard names, given by its last segment. -/
def standard (segment text : String) : Fault :=
  ⟨"org.freedesktop.DBus.Error." ++ segment, text⟩

/-- A failure of no particular kind. -/
def failed (text : String) : Fault := standard "Failed" text

/-- The arguments are not those of the method. -/
def invalidArgs (text : String) : Fault := standard "InvalidArgs" text

/-- There is no object with a path. -/
def unknownObject (path : String) : Fault :=
  standard "UnknownObject" ("No such object path '" ++ path ++ "'")

/-- The object has no interface with a name. -/
def unknownInterface (interface : String) : Fault :=
  standard "UnknownInterface" ("Unknown interface '" ++ interface ++ "'")

/-- The interface has no method with a name. -/
def unknownMethod (member : String) : Fault :=
  standard "UnknownMethod" ("Unknown method '" ++ member ++ "'")

/-- The interface has no property with a name. -/
def unknownProperty (name : String) : Fault :=
  standard "UnknownProperty" ("Unknown property '" ++ name ++ "'")

/-- The property may not be written. -/
def propertyReadOnly (name : String) : Fault :=
  standard "PropertyReadOnly" ("Property '" ++ name ++ "' is read-only")

/-- The property may not be read. -/
def propertyWriteOnly (name : String) : Fault :=
  standard "PropertyWriteOnly" ("Property '" ++ name ++ "' is write-only")

/-- The fault that an error becomes. -/
def ofError : Error → Fault
  | .remote name text => ⟨name, text⟩
  | e => failed e.message

/-- The wording of a fault. -/
def message (f : Fault) : String :=
  if f.text.isEmpty then f.name else f.name ++ ": " ++ f.text

end Fault

end DBus
