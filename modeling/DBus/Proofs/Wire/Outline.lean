import DBus.Proofs.Wire.Appending
import DBus.Proofs.Wire.Marshalling
import Mathlib.Data.Nat.ModEq

/-!
# Bodies that end alike

What is appended for a value depends on what stands before it only through the length modulo eight,
and the order of bytes shows in numbers only. To say so, the bytes of a value are taken apart into
chunks: padding, numbers, and texts. The outline of a value is the row of its chunks, which knows
nothing of an order of bytes. So a value may be written into a body of its own and moved from there
to any place that is as far from a multiple of eight.
-/

namespace DBus

/-! ### Chunks -/

/-- A stretch of the bytes of a value. -/
inductive Chunk where
  /-- Zeros up to an alignment. -/
  | padding (n : Nat)
  /-- A number, which may be the length of a text or an array. -/
  | number (width n : Nat)
  /-- The bytes of a text, a path or a signature, and the zero behind them. -/
  | text (s : String)
  deriving DecidableEq

namespace Chunk

/-- The number of bytes of a chunk. -/
def size : Chunk → Nat
  | .padding n => n
  | .number width _ => width
  | .text s => s.toUTF8.size + 1

/-- The bytes of a chunk. -/
def bytes (order : ByteOrder) : Chunk → List UInt8
  | .padding n => List.replicate n 0
  | .number width n => order.encode width n
  | .text s => Bytes.utf8 s ++ [0]

/-- The number of bytes of some chunks. -/
def sizes (cs : List Chunk) : Nat :=
  (cs.map size).sum

/-- The bytes of some chunks. -/
def allBytes (order : ByteOrder) (cs : List Chunk) : List UInt8 :=
  cs.flatMap (bytes order)

theorem length_bytes (order : ByteOrder) (c : Chunk) : (c.bytes order).length = c.size := by
  cases c with
  | padding n => exact List.length_replicate
  | number width n => exact ByteOrder.encode_length ..
  | text s => rw [bytes, size, List.length_append, Bytes.length_utf8, List.length_singleton]

theorem length_allBytes (order : ByteOrder) (cs : List Chunk) :
    (allBytes order cs).length = sizes cs := by
  rw [allBytes, List.length_flatMap, sizes, funext (length_bytes order)]

theorem allBytes_append (order : ByteOrder) (cs ds : List Chunk) :
    allBytes order (cs ++ ds) = allBytes order cs ++ allBytes order ds :=
  List.flatMap_append

theorem allBytes_singleton (order : ByteOrder) (c : Chunk) : allBytes order [c] = c.bytes order :=
  List.flatMap_singleton ..

/-- A chunk stands behind the bytes of the chunks before it. -/
theorem bytes_eq_drop_take (order : ByteOrder) (before behind : List Chunk) (c : Chunk) :
    ((allBytes order (before ++ c :: behind)).drop (sizes before)).take c.size = c.bytes order := by
  rw [allBytes_append, ← length_allBytes order before, List.drop_left, allBytes, List.flatMap_cons,
    ← length_bytes order c, List.take_left]

end Chunk

/-! ### Outlines -/

/-- Chunks that depend on where they begin. -/
structure Outline where
  /-- The chunks from a position on. -/
  chunksAt : Nat → List Chunk

namespace Outline

/-- The number of bytes from a position on. -/
def size (o : Outline) (pos : Nat) : Nat :=
  Chunk.sizes (o.chunksAt pos)

/-- A row of chunks that depends on nothing. -/
def fixed (cs : List Chunk) : Outline := ⟨fun _ => cs⟩

/-- One outline behind another. -/
instance : Append Outline where
  append o p := ⟨fun pos => o.chunksAt pos ++ p.chunksAt (pos + o.size pos)⟩

/-- Padding up to a multiple of `align`. -/
def padding (align : Nat) : Outline :=
  ⟨fun pos => [.padding (paddingTo align pos)]⟩

/-- A number of a fixed width. -/
def number (width n : Nat) : Outline :=
  padding width ++ fixed [.number width n]

/-- A text: the number of its bytes, the bytes, and a zero. -/
def text (width : Nat) (s : String) : Outline :=
  number width s.toUTF8.size ++ fixed [.text s]

/-- An array: the number of bytes of its elements, padding, and the elements. -/
def array (align : Nat) (elements : Outline) : Outline :=
  ⟨fun pos =>
    (number 4 (elements.size (Layout.firstElement align pos)) ++ padding align
      ++ elements).chunksAt pos⟩

/-- The bytes of an outline. -/
def layout (o : Outline) : Layout :=
  ⟨fun order pos => Chunk.allBytes order (o.chunksAt pos)⟩

section

variable (o p : Outline) (align width n pos : Nat) (order : ByteOrder)

theorem size_layout : o.layout.size order pos = o.size pos :=
  Chunk.length_allBytes ..

theorem layout_fixed_nil : (fixed []).layout = .fixed [] := rfl

theorem layout_append : (o ++ p).layout = o.layout ++ p.layout := by
  refine congrArg Layout.mk (funext fun order => funext fun pos => ?_)
  rw [size_layout]
  exact Chunk.allBytes_append ..

theorem layout_padding : (padding align).layout = .padding align :=
  congrArg Layout.mk (funext fun _ => funext fun _ => Chunk.allBytes_singleton ..)

theorem layout_number : (number width n).layout = .number width n := by
  rw [number, layout_append, layout_padding, Layout.number]
  refine congrArg (Layout.padding width ++ ·) (congrArg Layout.mk ?_)
  exact funext fun _ => funext fun _ => Chunk.allBytes_singleton ..

theorem layout_text (s : String) : (text width s).layout = .text width s := by
  rw [text, layout_append, layout_number, Layout.text]
  refine congrArg (Layout.number width s.toUTF8.size ++ ·) (congrArg Layout.mk ?_)
  exact funext fun _ => funext fun _ => Chunk.allBytes_singleton ..

theorem layout_array : (array align o).layout = .array align o.layout := by
  refine congrArg Layout.mk (funext fun order => funext fun pos => ?_)
  rw [size_layout, ← layout_number, ← layout_padding, ← layout_append, ← layout_append]
  rfl

end

/-! ### Outlines that repeat -/

/-- Whether only the remainder of the position modulo eight matters. -/
def Periodic (o : Outline) : Prop :=
  ∀ pos pos', pos ≡ pos' [MOD 8] → o.chunksAt pos = o.chunksAt pos'

/-- Positions that agree modulo eight need the same padding. -/
theorem paddingTo_congr {align pos pos' : Nat} (halign : align ∣ 8) (h : pos ≡ pos' [MOD 8]) :
    paddingTo align pos = paddingTo align pos' := by
  rw [paddingTo, paddingTo, h.of_dvd halign]

theorem firstElement_congr {align pos pos' : Nat} (halign : align ∣ 8) (h : pos ≡ pos' [MOD 8]) :
    Layout.firstElement align pos ≡ Layout.firstElement align pos' [MOD 8] := by
  have hlength : pos + paddingTo 4 pos + 4 ≡ pos' + paddingTo 4 pos' + 4 [MOD 8] := by
    rw [paddingTo_congr (by decide) h]
    exact (h.add_right _).add_right _
  unfold Layout.firstElement
  rw [paddingTo_congr halign hlength]
  exact hlength.add_right _

section

variable {o p : Outline} {align width : Nat}

theorem Periodic.fixed (cs : List Chunk) : (fixed cs).Periodic := fun _ _ _ => rfl

theorem Periodic.append (ho : o.Periodic) (hp : p.Periodic) : (o ++ p).Periodic := by
  intro pos pos' h
  have hsize : o.size pos = o.size pos' := congrArg Chunk.sizes (ho pos pos' h)
  refine congrArg₂ (· ++ ·) (ho pos pos' h) (hp _ _ ?_)
  rw [hsize]
  exact h.add_right _

theorem Periodic.padding (h : align ∣ 8) : (padding align).Periodic :=
  fun _ _ hpos => congrArg ([Chunk.padding ·]) (paddingTo_congr h hpos)

theorem Periodic.number (h : width ∣ 8) (n : Nat) : (number width n).Periodic :=
  (Periodic.padding h).append (.fixed _)

theorem Periodic.text (h : width ∣ 8) (s : String) : (text width s).Periodic :=
  (Periodic.number h _).append (.fixed _)

theorem Periodic.array (h : align ∣ 8) (ho : o.Periodic) : (array align o).Periodic := by
  intro pos pos' hpos
  have hsize : o.size (Layout.firstElement align pos) = o.size (Layout.firstElement align pos') :=
    congrArg Chunk.sizes (ho _ _ (firstElement_congr h hpos))
  dsimp only [Outline.array]
  rw [hsize]
  exact ((Periodic.number (by decide) _).append (.padding h)).append ho pos pos' hpos

end

end Outline

/-! ### Values -/

namespace Value

open Outline

mutual

/-- The outline of a value. -/
def outline : Value → Outline
  | .byte n => number 1 n.toNat
  | .boolean b => number 4 (if b then 1 else 0)
  | .int16 n => number 2 n.toUInt16.toNat
  | .uint16 n => number 2 n.toNat
  | .int32 n => number 4 n.toUInt32.toNat
  | .uint32 n => number 4 n.toNat
  | .int64 n => number 8 n.toUInt64.toNat
  | .uint64 n => number 8 n.toNat
  | .double bits => number 8 bits.toNat
  | .string s => text 4 s
  | .objectPath p => text 4 p.text
  | .signature s => text 1 s.text
  | .unixFd index => number 4 index.toNat
  | .variant payload => text 1 payload.spelling ++ outline payload
  | .array element vs => Outline.array element.alignment (outlines vs)
  | .dict _ _ es => Outline.array 8 (entryOutlines es)
  | .struct fields => padding 8 ++ outlines fields

/-- The outlines of values, one after the other. -/
def outlines : List Value → Outline
  | [] => fixed []
  | v :: vs => outline v ++ outlines vs

/-- The outlines of the entries of a dict. -/
def entryOutlines : List (Value × Value) → Outline
  | [] => fixed []
  | (a, b) :: es => padding 8 ++ outline a ++ outline b ++ entryOutlines es

end

mutual

/-- The bytes of a value are those of its outline. -/
theorem layout_outline : ∀ v : Value, v.outline.layout = v.layout
  | .byte _ | .boolean _ | .int16 _ | .uint16 _ | .int32 _ | .uint32 _ | .int64 _ | .uint64 _
  | .double _ | .unixFd _ => layout_number ..
  | .string _ | .objectPath _ | .signature _ => layout_text ..
  | .variant payload => by
    rw [outline, layout_append, layout_text, layout_outline payload, layout]
  | .array _ vs => by rw [outline, layout_array, layout_outlines vs, layout]
  | .dict _ _ es => by rw [outline, layout_array, layout_entryOutlines es, layout]
  | .struct fields => by
    rw [outline, layout_append, layout_padding, layout_outlines fields, layout]

theorem layout_outlines : ∀ vs : List Value, (outlines vs).layout = layouts vs
  | [] => layout_fixed_nil
  | v :: vs => by rw [outlines, layout_append, layout_outline v, layout_outlines vs, layouts]

theorem layout_entryOutlines : ∀ es : List (Value × Value),
    (entryOutlines es).layout = entryLayouts es
  | [] => layout_fixed_nil
  | (a, b) :: es => by
    rw [entryOutlines, layout_append, layout_append, layout_append, layout_padding,
      layout_outline a, layout_outline b, layout_entryOutlines es, entryLayouts]

end

mutual

/-- The outline of a value depends on the remainder of the position modulo eight only. -/
theorem periodic_outline : ∀ v : Value, v.outline.Periodic
  | .byte _ | .boolean _ | .int16 _ | .uint16 _ | .int32 _ | .uint32 _ | .int64 _ | .uint64 _
  | .double _ | .unixFd _ => .number (by decide) _
  | .string _ | .objectPath _ | .signature _ => .text (by decide) _
  | .variant payload => (Periodic.text (by decide) _).append (periodic_outline payload)
  | .array element vs => .array element.alignment_dvd (periodic_outlines vs)
  | .dict _ _ es => .array (by decide) (periodic_entryOutlines es)
  | .struct fields => (Periodic.padding (by decide)).append (periodic_outlines fields)

theorem periodic_outlines : ∀ vs : List Value, (outlines vs).Periodic
  | [] => .fixed []
  | v :: vs => (periodic_outline v).append (periodic_outlines vs)

theorem periodic_entryOutlines : ∀ es : List (Value × Value), (entryOutlines es).Periodic
  | [] => .fixed []
  | (a, b) :: es =>
    (((Periodic.padding (by decide)).append (periodic_outline a)).append
      (periodic_outline b)).append (periodic_entryOutlines es)

end

end Value

/-! ### The writer -/

namespace Writer

/-- The bytes that stand behind a body that was extended. -/
def added (w w' : Writer) : List UInt8 :=
  w'.bytes.data.toList.drop w.length

theorem added_append (w : Writer) (l : Layout) :
    w.added (w.append l) = l.bytesAt w.order w.length := by
  rw [added, toList_append, length, ← Bytes.length_toList, List.drop_left]

/-- Two bodies that were extended alike, by the same chunks. -/
structure ExtendedAlike (chunks : List Chunk) (w₁ w₁' w₂ w₂' : Writer) : Prop where
  left : w₁.Extended w₁'
  right : w₂.Extended w₂'
  /-- The same bytes were added, if the order of bytes is the same. -/
  added_eq : w₁.order = w₂.order → w₁.added w₁' = w₂.added w₂'
  /-- As many bytes were added. -/
  length_eq : (w₁.added w₁').length = (w₂.added w₂').length
  /-- The bytes are those of the chunks, each in the order of the body. -/
  spelled : w₁.added w₁' = Chunk.allBytes w₁.order chunks ∧
    w₂.added w₂' = Chunk.allBytes w₂.order chunks
  /-- Each chunk stands at the same place in what was added. -/
  placed : ∀ before c behind, chunks = before ++ c :: behind →
    ((w₁.added w₁').drop (Chunk.sizes before)).take c.size = c.bytes w₁.order ∧
    ((w₂.added w₂').drop (Chunk.sizes before)).take c.size = c.bytes w₂.order

/-- What has an outline that repeats is appended alike. -/
theorem extendedAlike_append {o : Outline} (ho : o.Periodic) {w₁ w₂ : Writer}
    (h : w₁.length % 8 = w₂.length % 8) :
    ExtendedAlike (o.chunksAt w₁.length) w₁ (w₁.append o.layout) w₂ (w₂.append o.layout) := by
  have hleft : w₁.added (w₁.append o.layout) = Chunk.allBytes w₁.order (o.chunksAt w₁.length) :=
    added_append ..
  have hright : w₂.added (w₂.append o.layout) = Chunk.allBytes w₂.order (o.chunksAt w₁.length) := by
    rw [added_append, ho w₁.length w₂.length h]
    rfl
  refine ⟨extended_append .., extended_append .., fun horder => ?_, ?_, ⟨hleft, hright⟩, ?_⟩
  · rw [hleft, hright, horder]
  · rw [hleft, hright, Chunk.length_allBytes, Chunk.length_allBytes]
  · rintro before c behind hchunks
    rw [hleft, hright, hchunks]
    exact ⟨Chunk.bytes_eq_drop_take .., Chunk.bytes_eq_drop_take ..⟩

end Writer

namespace Write

open Writer

theorem extendedAlike_of_value {v : Value} {w₁ w₁' w₂ w₂' : Writer}
    (h : w₁.length % 8 = w₂.length % 8) (h₁ : value v w₁ = .ok () w₁')
    (h₂ : value v w₂ = .ok () w₂') :
    ExtendedAlike (v.outline.chunksAt w₁.length) w₁ w₁' w₂ w₂' := by
  obtain ⟨rfl, -, -⟩ := value_ok h₁
  obtain ⟨rfl, -, -⟩ := value_ok h₂
  rw [← v.layout_outline]
  exact extendedAlike_append v.periodic_outline h

/-- Behind two bodies whose lengths agree modulo eight, a value is written alike, and so is a variant:
as the same bytes if the orders of bytes agree, and otherwise as the same chunks, with padding and
texts in the same places and each number in the order of its body. -/
theorem written_alike (v : Value) {w₁ w₂ : Writer} (h : w₁.length % 8 = w₂.length % 8) :
    (∀ w₁' w₂', value v w₁ = .ok () w₁' → value v w₂ = .ok () w₂' →
      ExtendedAlike (v.outline.chunksAt w₁.length) w₁ w₁' w₂ w₂') ∧
    ∀ w₁' w₂', variant v w₁ = .ok () w₁' → variant v w₂ = .ok () w₂' →
      ExtendedAlike ((Value.variant v).outline.chunksAt w₁.length) w₁ w₁' w₂ w₂' :=
  ⟨fun _ _ h₁ h₂ => extendedAlike_of_value h h₁ h₂,
    fun _ _ h₁ h₂ => extendedAlike_of_value (v := .variant v) h h₁ h₂⟩

/-- A struct of a text, an array of numbers and a path. -/
def scattered : Value :=
  .struct [.string "ab", .array (.basic .uint64) [.uint64 1], .objectPath .root]

theorem written_alike_scattered :
    let w₁ : Writer := ⟨.little, ⟨#[1, 2, 3]⟩⟩
    let w₂ : Writer := ⟨.big, ⟨#[1, 2, 3, 4, 5, 6, 7, 8, 9, 10, 11]⟩⟩
    w₁.length % 8 = w₂.length % 8 ∧ ∃ w₁' w₂',
      value scattered w₁ = .ok () w₁' ∧ value scattered w₂ = .ok () w₂' ∧
      (w₁.added w₁').length = (w₂.added w₂').length ∧
      ((w₁.added w₁').drop 9).take 3 = [97, 98, 0] ∧
      ((w₂.added w₂').drop 9).take 3 = [97, 98, 0] ∧
      ((w₁.added w₁').drop 21).take 8 = [1, 0, 0, 0, 0, 0, 0, 0] ∧
      ((w₂.added w₂').drop 21).take 8 = [0, 0, 0, 0, 0, 0, 0, 1] := by
  intro w₁ w₂
  have hmod : w₁.length % 8 = w₂.length % 8 := by decide
  have hok₁ : succeedsWith (fun _ => true) (value scattered w₁) = true := by decide +kernel
  have hok₂ : succeedsWith (fun _ => true) (value scattered w₂) = true := by decide +kernel
  obtain ⟨⟨⟩, w₁', h₁, -⟩ := succeedsWith_iff.1 hok₁
  obtain ⟨⟨⟩, w₂', h₂, -⟩ := succeedsWith_iff.1 hok₂
  have halike := (written_alike scattered hmod).1 w₁' w₂' h₁ h₂
  have htext := halike.placed ((scattered.outline.chunksAt 3).take 3) (.text "ab") _ rfl
  have hnumber := halike.placed ((scattered.outline.chunksAt 3).take 8) (.number 8 1) _ rfl
  exact ⟨hmod, w₁', w₂', h₁, h₂, halike.length_eq, htext.1, htext.2, hnumber.1, hnumber.2⟩

end Write

end DBus
