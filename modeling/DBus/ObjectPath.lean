/-!
# Object paths

The names of objects: `/`, or one or more components, each a slash followed by letters, digits and
underscores. `ObjectPath.isValidBytes` reads the bytes of a text once from left to right and remembers
only whether the current component has begun.
-/

namespace DBus

namespace ObjectPath

/-- The byte that components begin with. -/
def slash : UInt8 := '/'.toUInt8

/-- The bytes a component is made of. -/
def isComponentByte (b : UInt8) : Bool :=
  ('A'.toUInt8 ≤ b && b ≤ 'Z'.toUInt8) || ('a'.toUInt8 ≤ b && b ≤ 'z'.toUInt8)
    || ('0'.toUInt8 ≤ b && b ≤ '9'.toUInt8) || b == '_'.toUInt8

/-- Reads what follows a slash, `begun` telling whether the current component has a byte. -/
def componentsFrom (begun : Bool) : List UInt8 → Bool
  | [] => begun
  | b :: rest =>
    if isComponentByte b then componentsFrom true rest
    else b == slash && begun && componentsFrom false rest

/-- Whether bytes are an object path. -/
def isValidBytes : List UInt8 → Bool
  | [] => false
  | b :: rest => b == slash && (rest.isEmpty || componentsFrom false rest)

/-- Whether a text is an object path. -/
def isValid (s : String) : Bool :=
  isValidBytes s.toUTF8.data.toList

end ObjectPath

/-- The name of an object. -/
structure ObjectPath where
  /-- The text of the path. -/
  text : String
  /-- The text is a path. -/
  valid : ObjectPath.isValid text = true

namespace ObjectPath

instance : DecidableEq ObjectPath := fun a b =>
  if h : a.text = b.text then
    .isTrue (by cases a; cases b; cases h; rfl)
  else .isFalse fun e => h (congrArg text e)

/-- The path that a text is. -/
def ofString? (s : String) : Option ObjectPath :=
  if h : isValid s = true then some ⟨s, h⟩ else none

/-- The path of the root object. -/
def root : ObjectPath := ⟨"/", by decide +kernel⟩

instance : Inhabited ObjectPath := ⟨root⟩

/-- Whether a path is that of the root object. -/
def isRoot (p : ObjectPath) : Bool :=
  p.text == "/"

/-- The wording of the one way in which a text fails to be a path. -/
def errorMessage : String := "Invalid D-Bus object path"

end ObjectPath

end DBus
