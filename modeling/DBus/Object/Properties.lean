import DBus.Object.PropertyMap
import DBus.Bus.Session

/-!
# Properties on the bus

The standard interface through which the properties of all other interfaces are read and written,
and the signal that tells of changes.
-/

namespace DBus

/-- The name of the standard interface for properties. -/
def propertiesInterface : String := "org.freedesktop.DBus.Properties"

/-- The signature of a property map. -/
def Signature.propertyMap : Signature := ⟨"a\x7bsv\x7d", by decide +kernel⟩

/-- The signature of a signal that tells of changes. -/
def Signature.propertyChanges : Signature := ⟨"sa\x7bsv\x7das", by decide +kernel⟩

namespace Write

/-- Writes names and values, each pair at a multiple of eight. -/
def namedValues : List (String × Value) → Write Unit
  | [] => pure ()
  | (name, v) :: rest => do
    align 8
    string name
    variant v
    namedValues rest

/-- Writes a property map as an array of entries. -/
def propertyMap (m : PropertyMap) : Write Unit := do
  let a ← arrayStart 8
  namedValues m.entries
  arrayEnd a

/-- Writes texts one after the other. -/
def strings : List String → Write Unit
  | [] => pure ()
  | s :: rest => do
    string s
    strings rest

/-- Writes what changed in an interface: the new values, and the names of the properties whose new
values are not told. -/
def propertyChanges (interface : String) (changed : PropertyMap) (invalidated : List String) :
    Write Unit := do
  string interface
  propertyMap changed
  let a ← arrayStart 4
  strings invalidated
  arrayEnd a

end Write

/-- The signal that tells of changed properties of an object. -/
def Message.propertiesChanged (path : ObjectPath) (interface : String) (changed : PropertyMap)
    (invalidated : List String) : Except Error Message := do
  let body ← (Writer.new .native).write (Write.propertyChanges interface changed invalidated)
  let signal := Message.signal path "PropertiesChanged"
  return { signal with interface := some propertiesInterface }.withBody .propertyChanges body

/-- Tells of changed properties, if the signal for them can be written. -/
def Session.emitPropertiesChanged (path : ObjectPath) (interface : String) (changed : PropertyMap)
    (invalidated : List String) : Session H (Except Error Unit) :=
  match Message.propertiesChanged path interface changed invalidated with
  | .ok signal => .emit signal (.done (.ok ()))
  | .error e => .done (.error e)

/-! ### Changes as they are received -/

/-- Properties that changed, as told by a signal: new values in `α`, and names. -/
structure PropertyChanges (α : Type) where
  changed : α
  /-- The names of the properties with new values. -/
  changedNames : List String
  /-- The names of the properties whose new values were not told. -/
  invalidated : List String

namespace PropertyChanges

/-- Whether a property has a new value. -/
def hasChanged (c : PropertyChanges α) (name : String) : Bool :=
  c.changedNames.contains name

/-- Whether a property has changed without its new value being told. -/
def isInvalidated (c : PropertyChanges α) (name : String) : Bool :=
  c.invalidated.contains name

end PropertyChanges

end DBus
