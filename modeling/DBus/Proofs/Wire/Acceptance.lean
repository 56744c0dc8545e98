import DBus.Proofs.Wire.Boxing

/-!
# Which values are accepted

The writer looks at a value piece by piece: at the signature of a variant before its payload, at the
type of an element before the element, at a text when its turn comes. Together these checks accept
exactly the values all of whose parts are in order, as far as the size of the body allows.
-/

namespace DBus

namespace Value

open Layout

mutual

/-- The values that stand anywhere inside a value, the value itself included. -/
def parts : Value → List Value
  | .variant payload => .variant payload :: parts payload
  | .array element vs => .array element vs :: allParts vs
  | .dict k v es => .dict k v es :: entryParts es
  | .struct fields => .struct fields :: allParts fields
  | v => [v]

/-- The parts of some values. -/
def allParts : List Value → List Value
  | [] => []
  | v :: vs => parts v ++ allParts vs

/-- The parts of some entries. -/
def entryParts : List (Value × Value) → List Value
  | [] => []
  | (a, b) :: es => parts a ++ parts b ++ entryParts es

end

/-- A value all of whose parts are in order. -/
structure Sendable (v : Value) : Prop where
  /-- A signature spells the type of the value. -/
  spelled : (Ty.parseAll v.spelling).isOk = true
  /-- Signatures spell the types of the payloads of variants. -/
  payloads : ∀ p, .variant p ∈ v.parts → (Ty.parseAll p.spelling).isOk = true
  /-- The elements of arrays have the types that the arrays declare. -/
  elements : ∀ element vs, .array element vs ∈ v.parts → ∀ a ∈ vs, a.ty = element
  /-- The entries of dicts have the types that the dicts declare. -/
  entries : ∀ k t es, .dict k t es ∈ v.parts → ∀ e ∈ es, e.1.ty = k ∧ e.2.ty = t
  /-- No text holds a zero. -/
  texts : ∀ s, .string s ∈ v.parts → 0 ∉ Bytes.utf8 s

/-! ### Checks on single parts -/

/-- What the writer asks of a part apart from what stands inside it. -/
def InOrder : Value → Prop
  | .string s => 0 ∉ Bytes.utf8 s
  | .variant payload => (Signature.ofString payload.spelling).isOk = true
  | .array element vs => ∀ a ∈ vs, a.ty = element
  | .dict k t es => ∀ e ∈ es, e.1.ty = k ∧ e.2.ty = t
  | _ => True

theorem ofString_isOk (s : String) : (Signature.ofString s).isOk = (Ty.parseAll s).isOk := by
  rw [Bool.eq_iff_iff, Signature.ofString_isOk_iff]
  cases Ty.parseAll s with
  | ok ts => exact ⟨fun _ => rfl, fun _ => ⟨ts, rfl⟩⟩
  | error e => exact ⟨fun h => (nomatch h.choose_spec), nofun⟩

section

variable {a b v : Value} {vs : List Value} {es : List (Value × Value)} {P : Value → Prop}

theorem forall_mem_allParts_cons :
    (∀ p ∈ allParts (v :: vs), P p) ↔ (∀ p ∈ v.parts, P p) ∧ ∀ p ∈ allParts vs, P p :=
  List.forall_mem_append

theorem forall_mem_entryParts_cons :
    (∀ p ∈ entryParts ((a, b) :: es), P p) ↔
      (∀ p ∈ a.parts, P p) ∧ (∀ p ∈ b.parts, P p) ∧ ∀ p ∈ entryParts es, P p := by
  rw [entryParts, List.forall_mem_append, List.forall_mem_append, and_assoc]

end

mutual

/-- A value can be written at all if each part is in order. -/
theorem storable_iff : ∀ v : Value, v.Storable ↔ ∀ p ∈ v.parts, p.InOrder
  | .byte _ | .boolean _ | .int16 _ | .uint16 _ | .int32 _ | .uint32 _ | .int64 _ | .uint64 _
  | .double _ | .objectPath _ | .signature _ | .unixFd _ =>
    iff_of_true trivial (List.forall_mem_singleton.2 trivial)
  | .string s => by
    rw [Storable, parts, List.forall_mem_singleton]
    · rfl
    all_goals nofun
  | .variant payload => by
    rw [Storable, parts, List.forall_mem_cons, storable_iff payload]
    rfl
  | .array element vs => by
    rw [Storable, parts, List.forall_mem_cons, elementsStorable_iff element vs]
    rfl
  | .dict k t es => by
    rw [Storable, parts, List.forall_mem_cons, entriesStorable_iff k t es]
    rfl
  | .struct fields => by
    rw [Storable, parts, List.forall_mem_cons, fieldsStorable_iff fields]
    exact (and_iff_right trivial).symm

theorem fieldsStorable_iff : ∀ vs : List Value, FieldsStorable vs ↔ ∀ p ∈ allParts vs, p.InOrder
  | [] => ⟨fun _ => nofun, fun _ => trivial⟩
  | v :: vs => by
    rw [FieldsStorable, storable_iff v, fieldsStorable_iff vs, forall_mem_allParts_cons]

theorem elementsStorable_iff (element : Ty) : ∀ vs : List Value,
    ElementsStorable element vs ↔ (∀ a ∈ vs, a.ty = element) ∧ ∀ p ∈ allParts vs, p.InOrder
  | [] => ⟨fun _ => ⟨nofun, nofun⟩, fun _ => trivial⟩
  | v :: vs => by
    rw [ElementsStorable, hasType_iff, storable_iff v, elementsStorable_iff element vs,
      forall_mem_allParts_cons, List.forall_mem_cons]
    tauto

theorem entriesStorable_iff (k t : Ty) : ∀ es : List (Value × Value),
    EntriesStorable k t es ↔
      (∀ e ∈ es, e.1.ty = k ∧ e.2.ty = t) ∧ ∀ p ∈ entryParts es, p.InOrder
  | [] => ⟨fun _ => ⟨nofun, nofun⟩, fun _ => trivial⟩
  | (a, b) :: es => by
    rw [EntriesStorable, hasType_iff, hasType_iff, storable_iff a, storable_iff b,
      entriesStorable_iff k t es, forall_mem_entryParts_cons, List.forall_mem_cons]
    tauto

end

/-- The value and the payloads of its variants, the elements, the entries and the texts are all that
is looked at. -/
theorem sendable_iff (v : Value) : v.Sendable ↔ (Value.variant v).Storable := by
  rw [Storable, ofString_isOk, storable_iff]
  constructor
  · intro h
    refine ⟨h.spelled, fun p hp => ?_⟩
    cases p with
    | string s => exact h.texts s hp
    | variant payload => exact (ofString_isOk _).trans (h.payloads payload hp)
    | array element vs => exact h.elements element vs hp
    | dict k t es => exact h.entries k t es hp
    | _ => trivial
  · rintro ⟨hspelled, h⟩
    exact ⟨hspelled, fun p hp => (ofString_isOk _).symm.trans (h _ hp), fun _ _ hp => h _ hp,
      fun _ _ _ hp => h _ hp, fun _ hp => h _ hp⟩

/-! ### Short values -/

section

variable {order : ByteOrder} {pos : Nat}

/-- What ends in time is short enough for its length to be written. -/
theorem size_lt_of_size_text {s : String} {width : Nat}
    (h : pos + (text width s).size order pos ≤ maxArrayLength) : s.toUTF8.size < UInt32.size := by
  rw [size_text] at h
  have : maxArrayLength < UInt32.size := by decide
  omega

/-- The elements of an array that ends in time end in time. -/
theorem firstElement_add_le {align : Nat} {elements : Layout}
    (h : pos + (Layout.array align elements).size order pos ≤ maxArrayLength) :
    firstElement align pos + elements.size order (firstElement align pos) ≤ maxArrayLength := by
  rwa [size_array, ← Nat.add_assoc, size_array_head] at h

/-- What stands in front ends in time, and so does what stands behind it. -/
theorem add_size_append_le {l m : Layout} {limit : Nat}
    (h : pos + (l ++ m).size order pos ≤ limit) :
    pos + l.size order pos ≤ limit ∧
      pos + l.size order pos + m.size order (pos + l.size order pos) ≤ limit := by
  rw [size_append, ← Nat.add_assoc] at h
  exact ⟨Nat.le_trans (Nat.le_add_right ..) h, h⟩

end

mutual

/-- In a body that is no longer than an array may be, nothing is too long. -/
theorem fits_of_end_le {order : ByteOrder} : ∀ (v : Value) {pos : Nat},
    pos + v.layout.size order pos ≤ maxArrayLength → v.Fits order pos
  | .byte _, _, _ | .boolean _, _, _ | .int16 _, _, _ | .uint16 _, _, _ | .int32 _, _, _
  | .uint32 _, _, _ | .int64 _, _, _ | .uint64 _, _, _ | .double _, _, _ | .signature _, _, _
  | .unixFd _, _, _ => trivial
  | .string _, _, h | .objectPath _, _, h => size_lt_of_size_text h
  | .variant payload, _, h => fits_of_end_le payload (add_size_append_le h).2
  | .array _ vs, _, h => by
    have helements := firstElement_add_le h
    exact ⟨Nat.le_trans (Nat.le_add_left ..) helements, allFit_of_end_le vs helements⟩
  | .dict _ _ es, _, h => by
    have hentries := firstElement_add_le h
    exact ⟨Nat.le_trans (Nat.le_add_left ..) hentries, entriesFit_of_end_le es hentries⟩
  | .struct fields, pos, h => by
    have hfields := (add_size_append_le h).2
    rw [size_padding] at hfields
    exact allFit_of_end_le fields hfields

theorem allFit_of_end_le {order : ByteOrder} : ∀ (vs : List Value) {pos : Nat},
    pos + (layouts vs).size order pos ≤ maxArrayLength → AllFit order pos vs
  | [], _, _ => trivial
  | v :: vs, _, h => by
    obtain ⟨hv, hvs⟩ := add_size_append_le h
    exact ⟨fits_of_end_le v hv, allFit_of_end_le vs hvs⟩

theorem entriesFit_of_end_le {order : ByteOrder} : ∀ (es : List (Value × Value)) {pos : Nat},
    pos + (entryLayouts es).size order pos ≤ maxArrayLength → EntriesFit order pos es
  | [], _, _ => trivial
  | (a, b) :: es, pos, h => by
    obtain ⟨hpair, hes⟩ := add_size_append_le h
    obtain ⟨hkey, hvalue⟩ := add_size_append_le hpair
    obtain ⟨-, hkey⟩ := add_size_append_le hkey
    exact ⟨fits_of_end_le a hkey, fits_of_end_le b hvalue, entriesFit_of_end_le es hes⟩

end

end Value

namespace Write

open Writer Layout

variable {v : Value} {w w' : Writer}

/-- A value is accepted if all its parts are in order and the body stays short. -/
theorem variant_eq_ok (hv : v.Sendable)
    (hle : w.length + (Value.variant v).layout.size w.order w.length ≤ maxArrayLength) :
    variant v w = .ok () (w.append (Value.variant v).layout) :=
  value_eq_ok (v := .variant v) (v.sendable_iff.1 hv)
    ⟨Value.fits_of_end_le (.variant v) hle, Nat.le_trans hle (by decide)⟩

/-- All parts of a value that is accepted are in order. -/
theorem sendable_of_variant (h : variant v w = .ok () w') : v.Sendable := by
  have hvalue : value (.variant v) w = .ok () w' := h
  exact v.sendable_iff.2 (value_ok hvalue).2.1

/-- A number of one byte is that byte. -/
theorem bytesAt_number_one (n : Nat) (order : ByteOrder) (pos : Nat) :
    (Layout.number 1 n).bytesAt order pos = [UInt8.ofNat n] := by
  rw [Layout.number, bytesAt_append]
  show List.replicate (paddingTo 1 pos) 0 ++ order.encode 1 n = _
  rw [paddingTo, Nat.mod_one, ByteOrder.encode_one]
  rfl

/-- What comes first in the bytes of a variant is the number of bytes of the signature, and the
signature with a zero behind it. -/
theorem toList_of_variant (h : variant v w = .ok () w') :
    ∃ behind, w'.bytes.data.toList = w.bytes.data.toList
      ++ (UInt8.ofNat (Bytes.utf8 v.spelling).length :: (Bytes.utf8 v.spelling ++ 0 :: behind)) := by
  have hvalue : value (.variant v) w = .ok () w' := h
  obtain ⟨rfl, -, -⟩ := value_ok hvalue
  refine ⟨v.layout.bytesAt w.order (w.length + (text 1 v.spelling).size w.order w.length), ?_⟩
  rw [toList_append, Value.layout, bytesAt_append, text, bytesAt_append, bytesAt_number_one,
    Bytes.length_utf8]
  simp [fixed]

/-- As long as the body stays short, a value is accepted as a variant if and only if its type and the
types of all payloads have signatures, all elements and entries have the types that are declared for
them, and no text holds a zero. Whenever a value is accepted, the signature that is written first
spells its type. -/
theorem variant_accepted_iff (v : Value) (w : Writer) :
    (w.length + (Value.variant v).layout.size w.order w.length ≤ maxArrayLength →
      ((∃ w', variant v w = .ok () w') ↔ v.Sendable)) ∧
    ∀ w', variant v w = .ok () w' → ∃ s behind,
      w'.bytes.data.toList = w.bytes.data.toList
        ++ (UInt8.ofNat (Bytes.utf8 s).length :: (Bytes.utf8 s ++ 0 :: behind)) ∧
      (Bytes.utf8 s).length < 256 ∧ Ty.parse s = .ok v.ty := by
  refine ⟨fun hle => ⟨fun ⟨_, h⟩ => sendable_of_variant h, fun h => ⟨_, variant_eq_ok h hle⟩⟩,
    fun w' h => ?_⟩
  obtain ⟨behind, hbytes⟩ := toList_of_variant h
  have hsignature := (v.sendable_iff.1 (sendable_of_variant h)).1
  have hparse := (Read.parse_spelling hsignature).1
  exact ⟨v.spelling, behind, hbytes, Read.length_lt_of_parse hparse, hparse⟩

/-- A struct of an array of texts and a dict that holds a variant. -/
def labelled : Value :=
  .struct [.array (.basic .string) [.string "a", .string ""],
    .dict (.basic .byte) .variant [(.byte 3, .variant (.string "bc"))]]

/-- An array one of whose elements is not of the type that the array declares. -/
def mislabelled : Value :=
  .array (.basic .int32) [.int32 1, .string "nope"]

theorem variant_accepted_labelled :
    let w : Writer := ⟨.big, ⟨#[9, 9, 9]⟩⟩
    w.length + (Value.variant labelled).layout.size w.order w.length ≤ maxArrayLength ∧
      labelled.Sendable ∧
      (∃ w' s behind, variant labelled w = .ok () w' ∧
        w'.bytes.data.toList = w.bytes.data.toList
          ++ (UInt8.ofNat (Bytes.utf8 s).length :: (Bytes.utf8 s ++ 0 :: behind)) ∧
        Ty.parse s = .ok labelled.ty) ∧
      w.length + (Value.variant mislabelled).layout.size w.order w.length ≤ maxArrayLength ∧
      ¬∃ w', variant mislabelled w = .ok () w' := by
  intro w
  have hle : w.length + (Value.variant labelled).layout.size w.order w.length ≤ maxArrayLength := by
    decide
  have hle' : w.length + (Value.variant mislabelled).layout.size w.order w.length ≤ maxArrayLength := by
    decide
  have hlabelled : labelled.Sendable := by
    have hsignature : ∀ s, (Ty.parseAll s).isOk = true → (Signature.ofString s).isOk = true :=
      fun s h => (Value.ofString_isOk s).trans h
    have htext : ∀ s, 0 ∉ Bytes.utf8 s → (Value.string s).Storable := fun _ h => h
    exact labelled.sendable_iff.2 ⟨hsignature _ (by decide +kernel),
      ⟨by decide, htext _ (by decide), by decide, htext _ (by decide), trivial⟩,
      ⟨⟨by decide, by decide⟩, trivial, ⟨hsignature _ (by decide +kernel), htext _ (by decide)⟩,
        trivial⟩, trivial⟩
  obtain ⟨w', hw'⟩ := ((variant_accepted_iff labelled w).1 hle).2 hlabelled
  obtain ⟨s, behind, hbytes, -, hparse⟩ := (variant_accepted_iff labelled w).2 w' hw'
  refine ⟨hle, hlabelled, ⟨w', s, behind, hw', hbytes, hparse⟩, hle', fun haccepted => ?_⟩
  -- the second element is a text
  have hsendable := ((variant_accepted_iff mislabelled w).1 hle').1 haccepted
  have htype := hsendable.elements _ _ List.mem_cons_self (.string "nope")
    (List.mem_cons_of_mem _ List.mem_cons_self)
  exact absurd htype (by decide)

end Write

end DBus
