import DBus.Signature.Scan

/-!
# Signatures

A text that is known to spell types.
-/

namespace DBus

/-- A text that spells a list of types. -/
structure Signature where
  /-- The text. -/
  text : String
  /-- The text spells types. -/
  spells : (Ty.parseAll text).isOk = true

namespace Signature

instance : DecidableEq Signature := fun a b =>
  if h : a.text = b.text then
    .isTrue (by cases a; cases b; cases h; rfl)
  else .isFalse fun e => h (congrArg text e)

/-- The signature that a text is. -/
def ofString (s : String) : Except SignatureError Signature :=
  match h : Ty.parseAll s with
  | .ok _ => .ok ⟨s, by rw [h]; rfl⟩
  | .error e => .error e

/-- The types that a signature spells. -/
def types (s : Signature) : List Ty :=
  match Ty.parseAll s.text with
  | .ok ts => ts
  | .error _ => []

/-- The signature of a list of types, which not every list has. -/
def ofTypes (ts : List Ty) : Except SignatureError Signature :=
  ofString (Ty.signatureOf ts)

/-- The signature of no types. -/
def empty : Signature := ⟨"", by decide +kernel⟩

/-- The signature of one string. -/
def string : Signature := ⟨"s", by decide +kernel⟩

/-- The signature of one variant. -/
def variant : Signature := ⟨"v", by decide +kernel⟩

instance : Inhabited Signature := ⟨empty⟩

end Signature

end DBus
