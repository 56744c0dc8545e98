import DBus.Proofs.Wire.RoundTrip
import DBus.Proofs.Wire.Storing
import DBus.Wire.Boxed

/-!
# Boxing and unboxing

A body that holds one value is read as a `Value`, sent inside a variant, and unboxed again: the
bytes are the same as before. The value may have changed its form on the way, from an array that
could only hold entries of a dict to a dict without entries, but the two forms are written alike,
and a value that has been read keeps its form from then on.
-/

namespace DBus

namespace Value

/-! ### The form that is read -/

/-- Only an array that could hold nothing but entries of a dict changes its form. -/
theorem canonical_array_cases (element : Ty) (vs : List Value) :
    (∃ k v, element = .entry k v ∧ vs = [] ∧ (Value.array element vs).canonical = .dict k v []) ∨
      (Value.array element vs).canonical = .array element (canonicals vs) := by
  cases element with
  | entry k v =>
    cases vs with
    | nil => exact .inl ⟨k, v, rfl, rfl, rfl⟩
    | cons a vs => exact .inr rfl
  | basic _ | variant | array _ | struct _ => exact .inr (by cases vs <;> rfl)

mutual

theorem ty_canonical : ∀ v : Value, v.canonical.ty = v.ty
  | .byte _ | .boolean _ | .int16 _ | .uint16 _ | .int32 _ | .uint32 _ | .int64 _ | .uint64 _
  | .double _ | .string _ | .objectPath _ | .signature _ | .unixFd _ | .variant _
  | .dict _ _ _ => rfl
  | .array element vs => by
    rcases canonical_array_cases element vs with ⟨k, v, rfl, rfl, h⟩ | h <;> rw [h] <;> rfl
  | .struct fields => congrArg Ty.struct (tys_canonicals fields)

theorem tys_canonicals : ∀ vs : List Value, tys (canonicals vs) = tys vs
  | [] => rfl
  | v :: vs => congrArg₂ List.cons (ty_canonical v) (tys_canonicals vs)

end

theorem spelling_canonical (v : Value) : v.canonical.spelling = v.spelling :=
  congrArg Ty.signature v.ty_canonical

theorem hasType_canonical (v : Value) (t : Ty) : v.canonical.hasType t = v.hasType t :=
  Bool.eq_iff_iff.2 (by rw [hasType_iff, hasType_iff, ty_canonical])

mutual

theorem variantDepth_canonical : ∀ v : Value, v.canonical.variantDepth = v.variantDepth
  | .byte _ | .boolean _ | .int16 _ | .uint16 _ | .int32 _ | .uint32 _ | .int64 _ | .uint64 _
  | .double _ | .string _ | .objectPath _ | .signature _ | .unixFd _ => rfl
  | .variant payload => congrArg (· + 1) (variantDepth_canonical payload)
  | .array element vs => by
    rcases canonical_array_cases element vs with ⟨k, v, rfl, rfl, h⟩ | h
    · rw [h]
      rfl
    · rw [h, variantDepth, variantDepth, variantDepths_canonicals vs]
  | .dict _ _ es => entryDepths_canonicalEntries es
  | .struct fields => variantDepths_canonicals fields

theorem variantDepths_canonicals :
    ∀ vs : List Value, variantDepths (canonicals vs) = variantDepths vs
  | [] => rfl
  | v :: vs => congrArg₂ max (variantDepth_canonical v) (variantDepths_canonicals vs)

theorem entryDepths_canonicalEntries :
    ∀ es : List (Value × Value), entryDepths (canonicalEntries es) = entryDepths es
  | [] => rfl
  | (a, b) :: es =>
    congrArg₂ max (congrArg₂ max (variantDepth_canonical a) (variantDepth_canonical b))
      (entryDepths_canonicalEntries es)

end

mutual

/-- A value that has been read keeps its form. -/
theorem canonical_canonical : ∀ v : Value, v.canonical.canonical = v.canonical
  | .byte _ | .boolean _ | .int16 _ | .uint16 _ | .int32 _ | .uint32 _ | .int64 _ | .uint64 _
  | .double _ | .string _ | .objectPath _ | .signature _ | .unixFd _ => rfl
  | .variant payload => congrArg Value.variant (canonical_canonical payload)
  | .array element [] => by
    rcases canonical_array_cases element [] with ⟨k, v, rfl, -, h⟩ | h
    · rw [h]
      rfl
    · rw [h]
      exact h
  | .array element (v :: vs) => by
    have hcons : ∀ (a : Value) (as : List Value),
        (Value.array element (a :: as)).canonical = .array element (canonicals (a :: as)) := by
      intro a as
      cases element <;> rfl
    rw [hcons, canonicals, hcons, canonicals, canonical_canonical v, canonicals_canonicals vs]
  | .dict k v es => congrArg (Value.dict k v) (canonicalEntries_canonicalEntries es)
  | .struct fields => congrArg Value.struct (canonicals_canonicals fields)

theorem canonicals_canonicals :
    ∀ vs : List Value, canonicals (canonicals vs) = canonicals vs
  | [] => rfl
  | v :: vs => congrArg₂ List.cons (canonical_canonical v) (canonicals_canonicals vs)

theorem canonicalEntries_canonicalEntries :
    ∀ es : List (Value × Value), canonicalEntries (canonicalEntries es) = canonicalEntries es
  | [] => rfl
  | (a, b) :: es =>
    congrArg₂ List.cons (congrArg₂ Prod.mk (canonical_canonical a) (canonical_canonical b))
      (canonicalEntries_canonicalEntries es)

end

end Value

/-! ### Both forms are written alike -/

namespace Write

theorem typeOf_canonical (v : Value) : typeOf v.canonical = typeOf v := by
  rw [typeOf, typeOf, Value.spelling_canonical]

theorem checkType_canonical (v : Value) (t : Ty) : checkType v.canonical t = checkType v t := by
  rw [checkType, checkType, Value.hasType_canonical]

mutual

theorem value_canonical : ∀ v : Value, value v.canonical = value v
  | .byte _ | .boolean _ | .int16 _ | .uint16 _ | .int32 _ | .uint32 _ | .int64 _ | .uint64 _
  | .double _ | .string _ | .objectPath _ | .signature _ | .unixFd _ => rfl
  | .variant payload => by
    rw [Value.canonical, value, value, typeOf_canonical, value_canonical payload]
  | .array element vs => by
    rcases Value.canonical_array_cases element vs with ⟨k, v, rfl, rfl, h⟩ | h
    · rw [h]
      rfl
    · rw [h, value, value, elements_canonicals element vs]
  | .dict k v es => by rw [Value.canonical, value, value, entries_canonicalEntries k v es]
  | .struct fields => by rw [Value.canonical, value, value, values_canonicals fields]

theorem values_canonicals : ∀ vs : List Value, values (Value.canonicals vs) = values vs
  | [] => rfl
  | v :: vs => by rw [Value.canonicals, values, values, value_canonical v, values_canonicals vs]

theorem elements_canonicals (element : Ty) :
    ∀ vs : List Value, elements element (Value.canonicals vs) = elements element vs
  | [] => rfl
  | v :: vs => by
    rw [Value.canonicals, elements, elements, checkType_canonical, value_canonical v,
      elements_canonicals element vs]

theorem entries_canonicalEntries (k v : Ty) :
    ∀ es : List (Value × Value), entries k v (Value.canonicalEntries es) = entries k v es
  | [] => rfl
  | (a, b) :: es => by
    rw [Value.canonicalEntries, entries, entries, checkType_canonical, checkType_canonical,
      value_canonical a, value_canonical b, entries_canonicalEntries k v es]

end

end Write

/-! ### Bodies that hold one value -/

namespace Writer

open Read (within)

/-- The signature that spells one type is one. -/
theorem isOk_ofString_of_parse {s : String} (h : (Ty.parse s).isOk = true) :
    (Signature.ofString s).isOk = true := by
  cases ht : Ty.parse s with
  | ok t => exact Signature.ofString_isOk_of_parse ht
  | error e =>
    rw [ht] at h
    cases h

/-- What is read from a body into which just one value was written. -/
theorem toValue_of_write {v : Value} {w : Writer} {order : ByteOrder}
    (hparse : (Ty.parse v.spelling).isOk = true)
    (hwrite : Write.value v (new order) = .ok () w) :
    w.toValue v.spelling = within 64 v.variantDepth v.canonical := by
  obtain ⟨rfl, hstorable, hfits⟩ := Write.value_ok hwrite
  obtain ⟨htype, hwf⟩ := Read.parse_spelling (isOk_ofString_of_parse hparse)
  rw [toValue, htype]
  exact (Read.reads_value 64 hwf.shaped hstorable hfits).run

/-- What is made of a value whose signature is the one that is asked for. -/
theorem ofValue_of_write {v : Value} {w : Writer} {spelling : String}
    (hwrite : Write.value v (new .native) = .ok () w) (hs : v.spelling = spelling) :
    ofValue v spelling = .ok w := by
  rw [ofValue, if_pos hs, write, hwrite]

end Writer

namespace Read

/-- A variant is read where it stands, if what it holds could be written there. -/
theorem variant_append {v : Value} {w : Writer} (hs : (Value.variant v).Storable)
    (hfits : (Value.variant v).Fits w.order w.length) (hdepth : v.variantDepth ≤ 63)
    (rest : ByteArray) :
    variant ((Reader.new w.order ((w.append (Value.variant v).layout).bytes ++ rest)).skip w.length)
      = .ok v.canonical
          ((Reader.new w.order ((w.append (Value.variant v).layout).bytes ++ rest)).skip
            (w.append (Value.variant v).layout).length) := by
  have hread := Reads.variantWithin hs.1 (n := 64) fun m =>
    reads_value m (parse_spelling hs.1).2.shaped hs.2 hfits
  have hr := hread _ _ rfl (Nat.zero_add _) (holds_append w _ rest)
  rw [within, if_pos (Nat.succ_le_succ hdepth)] at hr
  rw [Writer.length_append, ← Reader.skip_skip]
  exact hr

end Read

namespace Writer

/-- A value stands for a body that holds just one value. -/
structure Boxed (b : Writer) (spelling : String) (v : Value) : Prop where
  /-- The body is read as the value. -/
  read : b.toValue spelling = .ok v
  /-- A variant with the value can be written wherever it fits. -/
  stores : ∀ w, (Value.variant v).FitsBody w → ∃ w', Write.variant v w = .ok () w'
  /-- A variant with the value is read where it was written, whatever stands around it. -/
  loads : ∀ w w' rest, Write.variant v w = .ok () w' →
    Read.variant ((Reader.new w.order (w'.bytes ++ rest)).skip w.length)
      = .ok v ((Reader.new w.order (w'.bytes ++ rest)).skip w'.length)
  /-- The value makes the same body. -/
  restores : ofValue v spelling = .ok b

/-- A body into which a value was written is restored, byte by byte, from the value that is read
from it. That value is the one that was written, but for the form of dicts without entries. -/
theorem boxed_of_write {v : Value} {b : Writer} (hdepth : v.variantDepth ≤ 63)
    (hparse : (Ty.parse v.spelling).isOk = true)
    (hwrite : Write.value v (new .native) = .ok () b) :
    Boxed b v.spelling v.canonical ∧ ofValue v v.spelling = .ok b := by
  have hcanonical : Write.value v.canonical (new .native) = .ok () b := by
    rw [Write.value_canonical, hwrite]
  have hstorable : (Value.variant v.canonical).Storable := by
    refine ⟨?_, (Write.value_ok hcanonical).2.1⟩
    rw [Value.spelling_canonical]
    exact isOk_ofString_of_parse hparse
  refine ⟨⟨?_, fun w hw => ⟨_, Write.value_eq_ok hstorable hw⟩, fun w w' rest h => ?_, ?_⟩, ?_⟩
  · rw [toValue_of_write hparse hwrite, Read.within, if_pos (Nat.le_succ_of_le hdepth)]
  · obtain ⟨rfl, -, hfits'⟩ := Write.value_ok (show Write.value (.variant v.canonical) w = _ from h)
    have hread := Read.variant_append hstorable hfits' (by rwa [Value.variantDepth_canonical]) rest
    rwa [Value.canonical_canonical] at hread
  · exact ofValue_of_write hcanonical v.spelling_canonical
  · exact ofValue_of_write hwrite rfl

/-- An array that could only hold entries of a dict, and a variant in a variant. -/
def emptyEntries : Value :=
  .struct [.array (.entry (.basic .byte) .variant) [], .variant (.variant (.boolean true))]

/-- The body that holds these. -/
def emptyEntriesBody : Writer :=
  ⟨.native, ⟨#[0, 0, 0, 0, 0, 0, 0, 0, 1, 118, 0, 1, 98, 0, 0, 0, 1, 0, 0, 0]⟩⟩

theorem boxed_of_write_emptyEntries :
    Write.value emptyEntries (new .native) = .ok () emptyEntriesBody ∧
      Boxed emptyEntriesBody "(a\x7byv\x7dv)"
        (.struct [.dict (.basic .byte) .variant [], .variant (.variant (.boolean true))]) := by
  have hwrite : Write.value emptyEntries (new .native) = .ok () emptyEntriesBody := by rfl
  exact ⟨hwrite, (boxed_of_write (by decide) (by decide +kernel) hwrite).1⟩

end Writer

end DBus
