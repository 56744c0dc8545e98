import DBus.Proofs.Wire.Decoding
import DBus.Proofs.Wire.Storing

/-!
# What is read can be written again

What is written for a value that was read are the bytes from which it was read, with zeros in the
place of the padding. Only a zero in one of its texts keeps a value that was read from being written
again.
-/

namespace DBus

namespace Read

open Template

section

variable {t : Ty} {order : ByteOrder} {data : ByteArray} {v : Value} {r r' : Reader}

/-! ### Writing again -/

/-- The position behind a value that was read tells how long its template is. -/
theorem pos_of_value (h : value t (Reader.new order data) = .ok v r) :
    r.pos = (v.template.slotsAt order 0).length := by
  obtain ⟨-, hfound⟩ := (value_decodes t).found (Reader.inside_new order data) h
  rw [hfound.pos_eq]
  exact Nat.zero_add _

/-- The bytes that mean something in a value stand in every body from which it is read. -/
theorem byte_of_value (h : value t (Reader.new order data) = .ok v r) {i : Nat} {b : UInt8}
    (hi : (v.template.slotsAt order 0)[i]? = some (.byte b)) : data.data[i]? = some b := by
  obtain ⟨-, hfound⟩ := (value_decodes t).found (Reader.inside_new order data) h
  have hbyte := hfound.shows.bytes i b hi
  rwa [Array.getElem?_toList, Reader.new, Nat.zero_add] at hbyte

/-- Whether a value is read all the same, and from as many bytes, whatever stands at a position of
the body. -/
def Ignores (t : Ty) (order : ByteOrder) (data : ByteArray) (v : Value) (n i : Nat) : Prop :=
  ∀ b : UInt8, value t (Reader.new order (data.set! i b))
    = .ok v ((Reader.new order (data.set! i b)).skip n)

/-- A body in which other bytes stand in the place of padding. -/
theorem shows_set {slots : List Slot} {i : Nat} (b : UInt8)
    (h : (Reader.new order data).Shows slots) (hi : slots[i]? = some .padding) :
    (Reader.new order (data.set! i b)).Shows slots := by
  have hsize : (data.set! i b).size = data.size := by
    rw [← Bytes.length_toList, Bytes.toList_set, List.length_set, Bytes.length_toList]
  refine ⟨?_, fun j c hj => ?_⟩
  · exact Nat.le_trans h.room (Nat.le_of_eq hsize.symm)
  · have hne : i ≠ j := by
      rintro rfl
      rw [hi] at hj
      cases hj
    have hbyte := h.bytes j c hj
    rw [Reader.new, Nat.zero_add] at hbyte ⊢
    rwa [Bytes.toList_set, List.getElem?_set_ne hne]

/-- Padding is ignored, and nothing else is. -/
theorem ignores_iff (h : value t (Reader.new order data) = .ok v r) {i : Nat} (hi : i < r.pos) :
    Ignores t order data v r.pos i ↔ (v.template.slotsAt order 0)[i]? = some .padding := by
  have hpos := pos_of_value h
  constructor
  · intro hignores
    cases hslot : (v.template.slotsAt order 0)[i]? with
    | none => exact absurd (List.getElem?_eq_none_iff.1 hslot) (Nat.not_le.2 (hpos ▸ hi))
    | some slot =>
      cases slot with
      | padding => rfl
      | byte b =>
        obtain ⟨hlt, -⟩ := Array.getElem?_eq_some_iff.1 (byte_of_value h hslot)
        have hset : ∀ c, b = c := by
          intro c
          have hbyte := byte_of_value (hignores c) hslot
          rw [← Array.getElem?_toList, Bytes.toList_set,
            List.getElem?_set_self (by rwa [Array.length_toList])] at hbyte
          exact (Option.some.inj hbyte).symm
        exact absurd ((hset 0).symm.trans (hset 1)) (by decide)
  · intro hslot b
    obtain ⟨-, hfound⟩ := (value_decodes t).found (Reader.inside_new order data) h
    rw [hpos]
    exact hfound.again _ rfl rfl (Reader.inside_new order _) (shows_set b hfound.shows hslot)

/-- Bodies from which the same value is read differ in the padding only. -/
theorem eq_of_value {data' : ByteArray} (h : value t (Reader.new order data) = .ok v r)
    (h' : value t (Reader.new order data') = .ok v r') :
    r'.pos = r.pos ∧ ∀ i < r.pos, (v.template.slotsAt order 0)[i]? ≠ some .padding →
      data'.data[i]? = data.data[i]? := by
  have hpos := pos_of_value h
  refine ⟨(pos_of_value h').trans hpos.symm, fun i hi hne => ?_⟩
  cases hslot : (v.template.slotsAt order 0)[i]? with
  | none => exact absurd (List.getElem?_eq_none_iff.1 hslot) (Nat.not_le.2 (hpos ▸ hi))
  | some slot =>
    cases slot with
    | padding => exact absurd hslot hne
    | byte b => rw [byte_of_value h hslot, byte_of_value h' hslot]

/-- The bytes of a body that holds a value and nothing else. -/
theorem getElem?_written (order : ByteOrder) (v : Value) (i : Nat) :
    ((Writer.new order).append v.layout).bytes.data[i]?
      = ((v.template.slotsAt order 0)[i]?).map Slot.fill := by
  rw [← Array.getElem?_toList, Writer.toList_append, ← Value.zeroed_template, ← List.getElem?_map]
  rfl

/-- A body is determined by the value that is read from it, up to the padding, which is just what the
reader ignores. If the texts of the value hold no zeros, the same bytes are written for it again,
with zeros in the place of the padding. -/
theorem rewrite_of_read (h : value t (Reader.new order data) = .ok v r)
    (hn : r.pos ≤ maxBodyLength) (hnul : ∀ s ∈ v.strings, 0 ∉ Bytes.utf8 s) :
    let isPadding := fun i : Nat => (v.template.slotsAt order 0)[i]? = some .padding
    (∀ i < r.pos, Ignores t order data v r.pos i ↔ isPadding i) ∧
    (∀ data' r', value t (Reader.new order data') = .ok v r' →
      r'.pos = r.pos ∧ ∀ i < r.pos, ¬isPadding i → data'.data[i]? = data.data[i]?) ∧
    ∃ w, Write.value v (Writer.new order) = .ok () w ∧ w.length = r.pos ∧
      ∀ i < r.pos, w.bytes.data[i]? = if isPadding i then some 0 else data.data[i]? := by
  intro isPadding
  obtain ⟨hloaded, -⟩ := (value_decodes t).found (Reader.inside_new order data) h
  have hpos := pos_of_value h
  have hsize : v.layout.size order 0 = r.pos := by
    rw [hpos, ← Value.size_template]
    rfl
  have hroom : (Writer.new order).length + v.layout.size order 0 ≤ maxBodyLength := by
    rw [hsize]
    exact Nat.le_trans (Nat.le_of_eq (Nat.zero_add _)) hn
  have hwrite := Write.value_eq_ok (hloaded.storable hnul) (w := Writer.new order)
    ⟨hloaded.fits, hroom⟩
  refine ⟨fun i hi => ignores_iff h hi, fun data' r' h' => eq_of_value h h', _, hwrite, ?_,
    fun i hi => ?_⟩
  · rw [Writer.length_append]
    exact (Nat.zero_add _).trans hsize
  · rw [getElem?_written]
    obtain ⟨slot, hslot⟩ : ∃ slot, (v.template.slotsAt order 0)[i]? = some slot :=
      ⟨_, List.getElem?_eq_getElem (Nat.lt_of_lt_of_eq hi hpos)⟩
    dsimp only [isPadding]
    cases slot with
    | padding =>
      rw [if_pos hslot, hslot]
      rfl
    | byte b =>
      rw [if_neg (by rw [hslot]; simp), byte_of_value h hslot, hslot]
      rfl

end

/-- A variant that holds a text, with a nine in the place of its padding. -/
def paddedVariant : ByteArray :=
  ⟨#[1, 115, 0, 9, 2, 0, 0, 0, 104, 105, 0]⟩

theorem variant_paddedVariant : variant (Reader.new .little paddedVariant)
    = .ok (.string "hi") ((Reader.new .little paddedVariant).skip 11) := by
  rfl

theorem rewrite_of_read_paddedVariant :
    let v := Value.variant (.string "hi")
    let r := (Reader.new .little paddedVariant).skip 11
    value .variant (Reader.new .little paddedVariant) = .ok v r ∧ r.pos ≤ maxBodyLength ∧
      Ignores .variant .little paddedVariant v 11 3 ∧ ¬Ignores .variant .little paddedVariant v 11 4 ∧
      ∃ w, Write.value v (Writer.new .little) = .ok () w ∧ w.length = 11 ∧
        w.bytes.data[3]? = some 0 ∧ w.bytes.data[4]? = some 2 := by
  intro v r
  have hread : value .variant (Reader.new .little paddedVariant) = .ok v r :=
    (bind_apply_of_ok variant_paddedVariant).trans rfl
  have hn : r.pos ≤ maxBodyLength := by decide
  have hnul : ∀ s ∈ v.strings, 0 ∉ Bytes.utf8 s := List.forall_mem_singleton.2 (by decide)
  obtain ⟨hignores, -, w, hwrite, hlength, hbytes⟩ := rewrite_of_read hread hn hnul
  refine ⟨hread, hn, (hignores 3 (by decide)).2 (by decide), ?_, w, hwrite, hlength, ?_, ?_⟩
  · exact mt (hignores 4 (by decide)).1 (by decide)
  · rw [hbytes 3 (by decide)]
    decide
  · rw [hbytes 4 (by decide)]
    decide

/-! ### What cannot be written again -/

/-- A value that was obtained from a body: by itself as a variant, or as a value of a type that a
signature spells. -/
inductive Obtained (r : Reader) (v : Value) (r' : Reader) : Prop where
  | variant (h : variant r = .ok v r')
  | value {spelling : String} {t : Ty} (ht : Ty.parse spelling = .ok t) (h : value t r = .ok v r')

/-- Only zeros in its texts keep a value that was obtained from being written as a variant. -/
theorem Obtained.storable {r r' : Reader} {v : Value} (hr : r.Inside) (h : Obtained r v r')
    (hnul : Value.NulFree v.strings) : (Value.variant v).Storable := by
  cases h with
  | variant h => exact (loaded_of_variant hr h).storable hnul
  | @value spelling t ht h =>
    obtain ⟨hloaded, -⟩ := (value_decodes t).found hr h
    have hspelling : v.spelling = spelling := by
      rw [Value.spelling, Value.ty_of_hasType hloaded.hasType, Ty.signature_of_parse ht]
    refine ⟨?_, hloaded.storable hnul⟩
    rw [hspelling]
    exact Signature.ofString_isOk_of_parse ht

/-- A value that was obtained from a body can be written again, where there is room for it, if and
only if none of its texts holds a zero: the reader takes texts with zeros in them, and the writer does
not. -/
theorem write_of_obtained_iff {r r' : Reader} {v : Value} {w : Writer} (hr : r.Inside)
    (h : Obtained r v r') (hfit : (Value.variant v).FitsBody w) :
    (∃ w', Write.variant v w = .ok () w') ↔ ∀ s ∈ v.strings, 0 ∉ Bytes.utf8 s := by
  constructor
  · rintro ⟨w', hwrite⟩
    have hvalue : Write.value (.variant v) w = .ok () w' := hwrite
    obtain ⟨-, hstorable, -⟩ := Write.value_ok hvalue
    exact Value.nulFree_of_storable (v := .variant v) hstorable
  · intro hnul
    exact ⟨_, Write.value_eq_ok (h.storable hr hnul) hfit⟩

theorem write_of_obtained_paddedVariant :
    let r := Reader.new .little paddedVariant
    r.Inside ∧ Obtained r (.string "hi") (r.skip 11) ∧
      (Value.variant (.string "hi")).FitsBody (Writer.new .big) ∧
      ∃ w', Write.variant (.string "hi") (Writer.new .big) = .ok () w' := by
  intro r
  have hr : r.Inside := Reader.inside_new ..
  have hread : variant r = .ok (.string "hi") (r.skip 11) := variant_paddedVariant
  have hfit : (Value.variant (.string "hi")).FitsBody (Writer.new .big) :=
    ⟨show (2 : Nat) < UInt32.size by decide, by decide⟩
  have hwrite := write_of_obtained_iff hr (.variant hread) hfit
  exact ⟨hr, .variant hread, hfit, hwrite.2 (List.forall_mem_singleton.2 (by decide))⟩

/-- A text that is read, and that cannot be written again: a single zero. -/
theorem write_of_obtained_nul :
    let r := Reader.new .little ⟨#[1, 0, 0, 0, 0, 0]⟩
    Ty.parse "s" = .ok (.basic .string) ∧
      value (.basic .string) r = .ok (.string "\x00") (r.skip 6) ∧
      (Value.variant (.string "\x00")).FitsBody (Writer.new .little) ∧
      0 ∈ Bytes.utf8 "\x00" ∧
      ∃ w', Write.variant (.string "\x00") (Writer.new .little) = .error .nulInString w' :=
  ⟨by rfl, by rfl, ⟨show (1 : Nat) < UInt32.size by decide, by decide⟩, by decide, _, by rfl⟩

end Read

end DBus
