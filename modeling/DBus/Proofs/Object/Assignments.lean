import DBus.Object
import DBus.Proofs.Wire.Boxing
import DBus.Proofs.Wire.Lengths

/-!
# Assignments on the wire

The body of a call that sets a property: the name of an interface, the name of a property, and a
variant. It is read as it was written, and its value can then be written at the start of another
body, if no array becomes too long there.
-/

namespace DBus

namespace Message

variable {m : Message} {i name : String} {v : Value}

/-- The body of a call is a property and a value, as they are written. -/
def Carries (m : Message) (i name : String) (v : Value) : Prop :=
  (do Write.string i; Write.string name; Write.variant v : Write Unit) (Writer.new m.order)
    = .ok () ⟨m.order, m.body⟩

/-- The body is laid out as the names and the variant. -/
structure LaidOut (m : Message) (i name : String) (v : Value) : Prop where
  body : (⟨m.order, m.body⟩ : Writer)
    = (Writer.new m.order).append (.text 4 i ++ .text 4 name ++ (Value.variant v).layout)
  lengths : i.toUTF8.size < UInt32.size ∧ name.toUTF8.size < UInt32.size
  storable : (Value.variant v).Storable
  fits : (Value.variant v).Fits m.order (0 + (Layout.text 4 i ++ .text 4 name).size m.order 0)

theorem Carries.laidOut (h : m.Carries i name v) : m.LaidOut i name v := by
  obtain ⟨_, w₁, hi, h⟩ := bind_apply_eq_ok_iff.1 h
  obtain ⟨_, w₂, hname, hvariant⟩ := bind_apply_eq_ok_iff.1 h
  obtain ⟨⟨rfl, -⟩, -, hilength⟩ := Write.string_eq_ok_iff.1 hi
  obtain ⟨⟨rfl, -⟩, -, hnamelength⟩ := Write.string_eq_ok_iff.1 hname
  rw [Writer.append_append] at hvariant
  obtain ⟨hbody, hstorable, hfits⟩ :=
    Write.value_ok (show Write.value (.variant v) _ = _ from hvariant)
  rw [Writer.append_append] at hbody
  rw [Writer.length_append] at hfits
  exact ⟨hbody, ⟨hilength, hnamelength⟩, hstorable, hfits⟩

/-- The names of a property are read. -/
theorem reads_names {order : ByteOrder} {pos : Nat} (hi : i.toUTF8.size < UInt32.size)
    (hname : name.toUTF8.size < UInt32.size) :
    Read.Reads order pos Object.readNames (.text 4 i ++ .text 4 name) (.ok (i, name)) :=
  (Read.Reads.string hi).andThen ((Read.Reads.string hname).map fun name => (i, name))

/-- What has been written is read, if variants are not nested too deeply. -/
theorem LaidOut.read (h : m.LaidOut i name v) :
    m.reader.run Object.readAssignment
      = Read.within 64 (v.variantDepth + 1) (i, name, v.canonical) := by
  obtain ⟨hi, hname⟩ := h.lengths
  obtain ⟨hsig, hstorable⟩ := h.storable
  have hvalue := (Read.Reads.variantWithin hsig (n := 64) fun n =>
    Read.reads_value n (Read.parse_spelling hsig).2.shaped hstorable h.fits).map
      fun value => (i, name, value)
  rw [Read.within_map] at hvalue
  have hread : Read.Reads m.order 0 Object.readAssignment
      (.text 4 i ++ .text 4 name ++ (Value.variant v).layout)
      (Read.within 64 (v.variantDepth + 1) (i, name, v.canonical)) :=
    (reads_names hi hname).andThen hvalue
  have hbytes := congrArg Writer.bytes h.body
  rw [reader, show m.body = _ from hbytes]
  exact hread.run

/-- A value that was written behind the names of a property also fits a body at whose start it
stands, unless an array of it becomes too long there. -/
theorem Carries.fitsBody (h : m.Carries i name v)
    (hfits : (Value.variant v.canonical).Fits .native 0) :
    (Value.variant v.canonical).Storable ∧
      (Value.variant v.canonical).FitsBody (Writer.new .native) := by
  obtain ⟨_, _, -, h⟩ := bind_apply_eq_ok_iff.1 h
  obtain ⟨_, w, -, hvariant⟩ := bind_apply_eq_ok_iff.1 h
  have hwrite : Write.value (Value.variant v.canonical) w = .ok () ⟨m.order, m.body⟩ :=
    (congrFun (Write.value_canonical (.variant v)) w).trans hvariant
  exact ⟨(Write.value_ok hwrite).2.1, Write.fitsBody_of_value rfl hwrite (Nat.zero_le _) hfits⟩

end Message

end DBus
