import DBus.Proofs.Wire.Reading
import DBus.Proofs.Wire.TypeTest
import DBus.Proofs.Wire.Writing

/-!
# What is written can be read

Reading gives back what was written, if no more variants are nested in one another than are followed.
There is one thing that the wire format does not tell apart: an array without elements whose element
type is a dict entry is read as a dict without entries.
-/

namespace DBus

namespace Value

mutual

/-- A value with dicts in the place of arrays that would have dict entries as elements. -/
def canonical : Value → Value
  | .variant payload => .variant (canonical payload)
  | .array (.entry k v) [] => .dict k v []
  | .array element vs => .array element (canonicals vs)
  | .dict k v es => .dict k v (canonicalEntries es)
  | .struct fields => .struct (canonicals fields)
  | v => v

/-- Values with such dicts. -/
def canonicals : List Value → List Value
  | [] => []
  | v :: vs => canonical v :: canonicals vs

/-- Entries with such dicts. -/
def canonicalEntries : List (Value × Value) → List (Value × Value)
  | [] => []
  | (a, b) :: es => (canonical a, canonical b) :: canonicalEntries es

end

mutual

/-- The greatest number of variants that are nested in one another. -/
def variantDepth : Value → Nat
  | .variant payload => variantDepth payload + 1
  | .array _ vs => variantDepths vs
  | .dict _ _ es => entryDepths es
  | .struct fields => variantDepths fields
  | _ => 0

/-- The greatest such number for a list of values. -/
def variantDepths : List Value → Nat
  | [] => 0
  | v :: vs => max (variantDepth v) (variantDepths vs)

/-- The greatest such number for a list of entries. -/
def entryDepths : List (Value × Value) → Nat
  | [] => 0
  | (a, b) :: es => max (max (variantDepth a) (variantDepth b)) (entryDepths es)

end

/-- A value of a type that a signature can spell takes at least one byte. -/
theorem size_layout_pos (order : ByteOrder) (pos : Nat) :
    ∀ {v : Value}, v.ty.isShaped = true → 0 < v.layout.size order pos
  | .byte _, _ | .boolean _, _ | .int16 _, _ | .uint16 _, _ | .int32 _, _ | .uint32 _, _
  | .int64 _, _ | .uint64 _, _ | .double _, _ | .unixFd _, _ => by
    rw [layout, Layout.size_number]
    omega
  | .string _, _ | .objectPath _, _ | .signature _, _ => by
    rw [layout, Layout.size_text]
    omega
  | .variant _, _ => by
    rw [layout, Layout.size_append, Layout.size_text]
    omega
  | .array _ _, _ | .dict _ _ _, _ => by
    rw [layout, Layout.size_array, Layout.size_append, Layout.size_number]
    omega
  | .struct [], h => by simp [ty, tys, Ty.isShaped] at h
  | .struct (v :: vs), h => by
    have hv : v.ty.isShaped = true := by
      simp only [ty, tys, Ty.isShaped, Ty.areShaped, Bool.and_eq_true] at h
      exact h.2.1
    have := size_layout_pos order (pos + (Layout.padding 8).size order pos) hv
    rw [layout, layouts, Layout.size_append, Layout.size_append]
    omega

end Value

/-! ### Values are read -/

namespace Read

open Layout

/-- What is read of a value in which variants are nested to some depth, if they are followed `n`
deep. -/
def within {α : Type} (n depth : Nat) (a : α) : Except Error α :=
  if depth ≤ n then .ok a else .error .variantTooDeep

section

variable {α β : Type} {n m k : Nat}

theorem within_zero (a : α) : within n 0 a = .ok a :=
  if_pos (Nat.zero_le n)

theorem within_map (f : α → β) (a : α) : (within n k a).map f = within n k (f a) := by
  unfold within
  split <;> rfl

theorem within_bind (a : α) (f : α → β) :
    (within n k a >>= fun a => within n m (f a)) = within n (max k m) (f a) := by
  unfold within
  by_cases hk : k ≤ n
  · rw [if_pos hk, ok_bind]
    by_cases hm : m ≤ n
    · rw [if_pos hm, if_pos (Nat.max_le.2 ⟨hk, hm⟩)]
    · rw [if_neg hm, if_neg (show ¬max k m ≤ n by omega)]
  · rw [if_neg hk, error_bind, if_neg (show ¬max k m ≤ n by omega)]

end

variable {order : ByteOrder} {pos n : Nat}

/-- A value without parts. -/
theorem Reads.leaf {α : Type} {x : Read α} {f : α → Value} {l : Layout} {a : α}
    (hx : Reads order pos x l (.ok a)) :
    Reads order pos (x >>= fun a => Pure.pure (f a)) l (within n 0 (f a)) := by
  rw [within_zero]
  exact hx.map f

/-- A value that is made of a number. -/
theorem Reads.scalar {width k : Nat} {f : Nat → Value} {v : Value} (hk : k < 256 ^ width)
    (hv : f k = v) :
    Reads order pos (Read.number width >>= fun k => Pure.pure (f k)) (.number width k)
      (within n 0 v) := by
  rw [← hv]
  exact (Reads.number hk).leaf

theorem Reads.boolean (b : Bool) :
    Reads order pos Read.boolean (.number 4 (if b then 1 else 0)) (.ok b) := by
  rw [← append_nil (.number 4 _)]
  unfold Read.boolean
  cases b
  · exact (Reads.number (by decide)).andThen (Reads.pure false)
  · exact (Reads.number (by decide)).andThen (Reads.pure true)

theorem Reads.string {s : String} (h : s.toUTF8.size < UInt32.size) :
    Reads order pos Read.string (.text 4 s) (.ok s) :=
  Reads.text h

theorem Reads.objectPath {p : ObjectPath} (h : p.text.toUTF8.size < UInt32.size) :
    Reads order pos Read.objectPath (.text 4 p.text) (.ok p) := by
  have hpath : ObjectPath.ofString? p.text = some p := dif_pos p.valid
  rw [← append_nil (.text 4 _)]
  refine (Reads.string h).andThen ?_
  rw [hpath]
  exact Reads.pure p

/-- A signature has fewer bytes than a byte can count. -/
theorem size_lt_of_signature (s : Signature) : s.text.toUTF8.size < 256 ^ 1 := by
  have hok : (Signature.ofString s.text).isOk = true := by rw [Signature.ofString_text]; rfl
  obtain ⟨ts, hts⟩ := Signature.ofString_isOk_iff.1 hok
  exact Nat.lt_succ_of_le (Ty.parseAll_sound hts).1

theorem Reads.signature (s : Signature) :
    Reads order pos Read.signature (.text 1 s.text) (.ok s) := by
  rw [← append_nil (.text 1 _)]
  refine Reads.text_andThen (size_lt_of_signature s) ?_
  rw [Signature.ofString_text]
  exact Reads.pure s

/-- The signature that goes with a value spells its type. -/
theorem parse_spelling {v : Value} (h : (Signature.ofString v.spelling).isOk = true) :
    Ty.parse v.spelling = .ok v.ty ∧ v.ty.WellFormed := by
  obtain ⟨ts, hts⟩ := Signature.ofString_isOk_iff.1 h
  obtain ⟨-, hspelled, hwf⟩ := Ty.parseAll_sound hts
  rw [Value.spelling, ← Ty.signatureOf_singleton] at hspelled
  obtain rfl := Ty.signatureOf_injective hspelled
  exact ⟨Ty.parse_eq_ok_iff.2 hts, hwf _ (List.mem_singleton_self _)⟩

/-- What spells a type has fewer bytes than a byte can count. -/
theorem length_lt_of_parse {s : String} {t : Ty} (h : Ty.parse s = .ok t) :
    (Bytes.utf8 s).length < 256 := by
  rw [Bytes.length_utf8]
  exact Nat.lt_succ_of_le (Ty.parseAll_sound (Ty.parse_eq_ok_iff.1 h)).1

/-- A variant is read if its payload is, at one level less. -/
theorem Reads.variantWithin {payload : Value}
    (h : (Signature.ofString payload.spelling).isOk = true)
    (hread : ∀ m, Reads order (pos + (Layout.text 1 payload.spelling).size order pos)
      (typed (Read.variantWithin m) payload.ty) payload.layout
      (within m payload.variantDepth payload.canonical)) :
    Reads order pos (Read.variantWithin n) (.text 1 payload.spelling ++ payload.layout)
      (within n (payload.variantDepth + 1) payload.canonical) := by
  obtain ⟨hparse, -⟩ := parse_spelling h
  obtain ⟨s, hs⟩ : ∃ s : Signature, s.text = payload.spelling := by
    cases hs : Signature.ofString payload.spelling with
    | ok s => exact ⟨s, Signature.text_of_ofString hs⟩
    | error e => rw [hs] at h; cases h
  have htype : typeOf s.text = Pure.pure payload.ty := by
    rw [typeOf, hs, hparse]
  rw [← hs] at hread ⊢
  cases n with
  | zero =>
    refine (Reads.signature s).andThen ?_
    rw [htype, pure_bind]
    exact Reads.throw _ _
  | succ m =>
    have hwithin : within (m + 1) (payload.variantDepth + 1) payload.canonical
        = within m payload.variantDepth payload.canonical := by
      simp only [within, Nat.add_le_add_iff_right]
    rw [hwithin]
    refine (Reads.signature s).andThen ?_
    rw [htype, pure_bind]
    exact hread m

/-! ### The values inside -/

theorem typed_array {nested : Read Value} {element : Ty} (h : element.isShaped = true) :
    typed nested (.array element) =
      arrayOf element.alignment (typed nested element) >>= fun vs =>
        Pure.pure (.array element vs) := by
  cases element with
  | entry k v => simp [Ty.isShaped] at h
  | _ => rfl

theorem canonical_array {element : Ty} (h : element.isShaped = true) (vs : List Value) :
    (Value.array element vs).canonical = .array element (Value.canonicals vs) := by
  cases element with
  | entry k v => simp [Ty.isShaped] at h
  | _ => cases vs <;> rfl

/-- The types in a dict. -/
theorem shaped_of_dict {k v : Ty} (h : (Ty.array (.entry k v)).isShaped = true) :
    k.isShaped = true ∧ v.isShaped = true := by
  rw [Ty.isShaped, Bool.and_eq_true] at h
  refine ⟨?_, h.2⟩
  cases k with
  | basic b => rfl
  | _ => simp [Ty.isBasic, Ty.basic?] at h

/-- What is read of an entry of a dict. -/
def entry (nested : Read Value) (k v : Ty) : Read (Value × Value) := do
  align 8
  let a ← typed nested k
  let b ← typed nested v
  return (a, b)

theorem Reads.entry {n : Nat} {k v : Ty} {a b : Value}
    (ha : Reads order (pos + (padding 8).size order pos) (typed (Read.variantWithin n) k) a.layout
      (within n a.variantDepth a.canonical))
    (hb : Reads order (pos + (padding 8 ++ a.layout).size order pos) (typed (Read.variantWithin n) v)
      b.layout (within n b.variantDepth b.canonical)) :
    Reads order pos (Read.entry (Read.variantWithin n) k v) (padding 8 ++ a.layout ++ b.layout)
      (within n (max a.variantDepth b.variantDepth) (a.canonical, b.canonical)) := by
  rw [size_append, ← Nat.add_assoc] at hb
  rw [append_assoc, ← within_bind a.canonical fun a => (a, b.canonical)]
  refine (Reads.align 8).andThen (ha.bind fun a' _ => ?_)
  rw [← within_map (fun b => (a', b))]
  exact hb.map _

mutual

/-- What is read of a value that was written. -/
theorem reads_value : ∀ {v : Value} {pos : Nat} (n : Nat), v.ty.isShaped = true → v.Storable →
    v.Fits order pos →
    Reads order pos (typed (Read.variantWithin n) v.ty) v.layout
      (within n v.variantDepth v.canonical)
  | .byte k, _, n, _, _, _ => Reads.scalar k.toNat_lt (by rw [UInt8.ofNat_toNat]; rfl)
  | .boolean b, _, n, _, _, _ => (Reads.boolean b).leaf
  | .int16 k, _, n, _, _, _ =>
    Reads.scalar k.toUInt16.toNat_lt (by rw [UInt16.ofNat_toNat, Int16.toInt16_toUInt16]; rfl)
  | .uint16 k, _, n, _, _, _ => Reads.scalar k.toNat_lt (by rw [UInt16.ofNat_toNat]; rfl)
  | .int32 k, _, n, _, _, _ =>
    Reads.scalar k.toUInt32.toNat_lt (by rw [UInt32.ofNat_toNat, Int32.toInt32_toUInt32]; rfl)
  | .uint32 k, _, n, _, _, _ => Reads.scalar k.toNat_lt (by rw [UInt32.ofNat_toNat]; rfl)
  | .int64 k, _, n, _, _, _ =>
    Reads.scalar k.toUInt64.toNat_lt (by rw [UInt64.ofNat_toNat, Int64.toInt64_toUInt64]; rfl)
  | .uint64 k, _, n, _, _, _ => Reads.scalar k.toNat_lt (by rw [UInt64.ofNat_toNat]; rfl)
  | .double bits, _, n, _, _, _ => Reads.scalar bits.toNat_lt (by rw [UInt64.ofNat_toNat]; rfl)
  | .string s, _, n, _, _, hfit => (Reads.string hfit).leaf
  | .objectPath p, _, n, _, _, hfit => (Reads.objectPath hfit).leaf
  | .signature s, _, n, _, _, _ => (Reads.signature s).leaf
  | .unixFd index, _, n, _, _, _ => Reads.scalar index.toNat_lt (by rw [UInt32.ofNat_toNat]; rfl)
  | .variant payload, _, n, _, hs, hfit => by
    have hpayload := Reads.variantWithin hs.1 (n := n) fun m =>
      reads_value m (parse_spelling hs.1).2.shaped hs.2 hfit
    have h := hpayload.map Value.variant
    rw [within_map] at h
    exact h
  | .array element vs, pos, n, hshape, hs, hfit => by
    rcases Ty.isShaped_of_array hshape with helement | ⟨k, v, rfl, hk, hv⟩
    · have hall := reads_elements n helement hs hfit.2
      have h := (Reads.arrayOf hfit.1 hall).map (Value.array element)
      rw [within_map] at h
      rw [Value.ty, typed_array helement, canonical_array helement]
      exact h
    · cases vs with
      | cons a vs =>
        have hentry := Value.ty_of_hasType hs.1
        cases a <;> cases hentry
      | nil =>
        have hall : ReadsAll order (firstElement 8 pos) (entry (Read.variantWithin n) k v)
            (Value.layouts []) (.ok []) := ReadsAll.nil
        have h := (Reads.arrayOf hfit.1 hall).map (Value.dict k v)
        rw [Value.variantDepth, Value.variantDepths, within_zero]
        exact h
  | .dict k v es, pos, n, hshape, hs, hfit => by
    obtain ⟨hk, hv⟩ := shaped_of_dict hshape
    have hall := reads_entries n hk hv hs hfit.2
    have h := (Reads.arrayOf hfit.1 hall).map (Value.dict k v)
    rw [within_map] at h
    exact h
  | .struct fields, pos, n, hshape, hs, hfit => by
    rw [Value.ty, Ty.isShaped, Bool.and_eq_true] at hshape
    rw [Value.Fits, ← size_padding order pos 8] at hfit
    have h := (reads_fields n hshape.2 hs hfit).map Value.struct
    rw [within_map] at h
    exact (Reads.align 8).andThen h

/-- What is read of the fields of a struct. -/
theorem reads_fields : ∀ {vs : List Value} {pos : Nat} (n : Nat),
    Ty.areShaped (Value.tys vs) = true → Value.FieldsStorable vs → Value.AllFit order pos vs →
    Reads order pos (typedAll (Read.variantWithin n) (Value.tys vs)) (Value.layouts vs)
      (within n (Value.variantDepths vs) (Value.canonicals vs))
  | [], _, n, _, _, _ => by
    rw [Value.variantDepths, within_zero]
    exact Reads.pure []
  | v :: vs, pos, n, hshape, hs, hfit => by
    rw [Value.tys, Ty.areShaped, Bool.and_eq_true] at hshape
    have hv := reads_value n hshape.1 hs.1 hfit.1
    have hvs := reads_fields n hshape.2 hs.2 hfit.2
    rw [Value.variantDepths, Value.canonicals,
      ← within_bind v.canonical fun a => a :: Value.canonicals vs]
    refine hv.bind fun a _ => ?_
    rw [← within_map (fun vs => a :: vs)]
    exact hvs.map _

/-- What is read of the elements of an array. -/
theorem reads_elements {element : Ty} : ∀ {vs : List Value} {pos : Nat} (n : Nat),
    element.isShaped = true → Value.ElementsStorable element vs → Value.AllFit order pos vs →
    ReadsAll order pos (typed (Read.variantWithin n) element) (Value.layouts vs)
      (within n (Value.variantDepths vs) (Value.canonicals vs))
  | [], _, n, _, _, _ => by
    rw [Value.variantDepths, within_zero]
    exact ReadsAll.nil
  | v :: vs, pos, n, hshape, hs, hfit => by
    obtain rfl := Value.ty_of_hasType hs.1
    have hv := reads_value n hshape hs.2.1 hfit.1
    have hpos : 0 < v.layout.size order pos := Value.size_layout_pos order pos hshape
    have h := ReadsAll.cons hv hpos (reads_elements n hshape hs.2.2 hfit.2)
    simp only [within_map] at h
    rw [within_bind v.canonical fun a => a :: Value.canonicals vs] at h
    exact h

/-- What is read of the entries of a dict. -/
theorem reads_entries {k v : Ty} : ∀ {es : List (Value × Value)} {pos : Nat} (n : Nat),
    k.isShaped = true → v.isShaped = true → Value.EntriesStorable k v es →
    Value.EntriesFit order pos es →
    ReadsAll order pos (entry (Read.variantWithin n) k v) (Value.entryLayouts es)
      (within n (Value.entryDepths es) (Value.canonicalEntries es))
  | [], _, n, _, _, _, _ => by
    rw [Value.entryDepths, within_zero]
    exact ReadsAll.nil
  | (a, b) :: es, pos, n, hk, hv, hs, hfit => by
    obtain rfl := Value.ty_of_hasType hs.1.1
    obtain rfl := Value.ty_of_hasType hs.1.2
    have hpair := Reads.entry (reads_value n hk hs.2.1 hfit.1) (reads_value n hv hs.2.2.1 hfit.2.1)
    have hpos : 0 < (padding 8 ++ a.layout ++ b.layout).size order pos := by
      have := Value.size_layout_pos order (pos + (padding 8).size order pos) hk
      rw [size_append, size_append]
      omega
    have h := ReadsAll.cons hpair hpos (reads_entries n hk hv hs.2.2.2 hfit.2.2)
    simp only [within_map] at h
    rw [within_bind (a.canonical, b.canonical) fun e => e :: Value.canonicalEntries es] at h
    exact h

end

/-- The window that begins where a layout was put. -/
theorem holds_append (w : Writer) (l : Layout) (rest : ByteArray) :
    ((Reader.new w.order ((w.append l).bytes ++ rest)).skip w.length).Holds
      (l.bytesAt w.order w.length ++ rest.data.toList) := by
  have hdata : ((w.append l).bytes ++ rest).data.toList
      = w.bytes.data.toList ++ (l.bytesAt w.order w.length ++ rest.data.toList) := by
    rw [ByteArray.toList_data_append, Writer.toList_append, List.append_assoc]
  have hlength : w.bytes.data.toList.length = w.length := Bytes.length_toList _
  refine ⟨?_, ?_⟩
  · show ((w.append l).bytes ++ rest).size = 0 + w.length + _
    rw [← Bytes.length_toList, hdata, List.length_append, hlength, Nat.zero_add]
  · show (List.drop (0 + w.length) ((w.append l).bytes ++ rest).data.toList).take _ = _
    rw [Nat.zero_add, hdata, ← hlength, List.drop_left, List.take_length]

/-- A body with one layout is that layout to its reader. -/
theorem holds_whole (order : ByteOrder) (l : Layout) :
    (Reader.new order ((Writer.new order).append l).bytes).Holds (l.bytesAt order 0 ++ []) := by
  have hnew := holds_append (Writer.new order) l .empty
  rwa [ByteArray.append_empty] at hnew

/-- What is made of a layout that fills a body. -/
theorem Reads.run {α : Type} {order : ByteOrder} {x : Read α} {l : Layout}
    {result : Except Error α} (h : Reads order 0 x l result) :
    (Reader.new order ((Writer.new order).append l).bytes).run x = result := by
  have hread := h _ _ rfl rfl (holds_whole order l)
  cases result with
  | ok a => rw [Reader.run, hread]
  | error e =>
    obtain ⟨r', hr'⟩ := hread
    rw [Reader.run, hr']

/-- A variant that was written is read where it stands, whatever stands before and behind it, if no
more than 64 variants are nested in one another. -/
theorem variant_of_write {v : Value} {w w' : Writer} (h : Write.variant v w = .ok () w')
    (rest : ByteArray) :
    let r := Reader.new w.order (w'.bytes ++ rest)
    if (Value.variant v).variantDepth ≤ 64 then
      Read.variant (r.skip w.length) = .ok v.canonical (r.skip w'.length)
    else ∃ r', Read.variant (r.skip w.length) = .error .variantTooDeep r' := by
  intro r
  have hwrite : Write.value (.variant v) w = .ok () w' := h
  obtain ⟨rfl, ⟨hsig, hstorable⟩, hfits⟩ := Write.value_ok hwrite
  have hread := Reads.variantWithin hsig (n := 64) fun m =>
    reads_value m (parse_spelling hsig).2.shaped hstorable hfits
  have hr := hread (r.skip w.length) _ rfl (Nat.zero_add _) (holds_append w _ rest)
  rw [Value.variantDepth]
  split
  · next hle =>
    rw [within, if_pos hle] at hr
    rw [Writer.length_append, ← Reader.skip_skip]
    exact hr
  · next hgt =>
    rw [within, if_neg hgt] at hr
    exact hr

/-- A struct of a truth value, a dict that holds a variant, and an array that could only hold entries
of a dict. -/
def mixedStruct : Value :=
  .struct [.boolean true, .dict (.basic .byte) .variant [(.byte 3, .variant (.uint16 258))],
    .array (.entry (.basic .byte) (.basic .uint32)) []]

/-- The struct written as a variant behind three bytes. -/
def writtenStruct : Writer :=
  ⟨.big, ⟨#[9, 9, 9, 13, 40, 98, 97, 123, 121, 118, 125, 97, 123, 121, 117, 125, 41, 0, 0, 0, 0, 0,
    0, 0, 0, 0, 0, 1, 0, 0, 0, 6, 3, 1, 113, 0, 1, 2, 0, 0, 0, 0, 0, 0, 0, 0, 0, 0]⟩⟩

theorem variant_of_write_mixedStruct :
    Write.variant mixedStruct ⟨.big, ⟨#[9, 9, 9]⟩⟩ = .ok () writtenStruct ∧
      Read.variant ((Reader.new .big (writtenStruct.bytes ++ ⟨#[7, 7]⟩)).skip 3) =
        .ok (.struct [.boolean true,
            .dict (.basic .byte) .variant [(.byte 3, .variant (.uint16 258))],
            .dict (.basic .byte) (.basic .uint32) []])
          ((Reader.new .big (writtenStruct.bytes ++ ⟨#[7, 7]⟩)).skip 48) := by
  have hwrite : Write.variant mixedStruct ⟨.big, ⟨#[9, 9, 9]⟩⟩ = .ok () writtenStruct := by rfl
  have hread := variant_of_write hwrite ⟨#[7, 7]⟩
  dsimp only at hread
  rw [if_pos (by decide)] at hread
  exact ⟨hwrite, hread⟩

end Read

end DBus
