import DBus.Proofs.Wire.RoundTrip

/-!
# Marshalling by the codes of types

The rule of the wire format in one sentence: a value is the padding up to the alignment of its type,
and then its contents. The alignment belongs to the code with which the signature of the type
begins. Here the rule is written down as it stands, position by position, with the padding told
apart from the bytes that mean something. The main statement is that the writer follows it: what it
appends is the template of the value with zeros for the padding, and the alignment by which it starts
arrays is the one by which each element pads itself.
-/

namespace DBus

/-! ### Templates -/

/-- What stands at a position of marshalled values. -/
inductive Slot where
  /-- Nothing that anyone looks at. -/
  | padding
  /-- A byte that means something. -/
  | byte (b : UInt8)
  deriving DecidableEq, Repr

/-- The byte that is written at a position. -/
def Slot.fill : Slot → UInt8
  | .padding => 0
  | .byte b => b

/-- Whether nothing that means anything stands at a position. -/
def Slot.isPadding : Slot → Bool
  | .padding => true
  | .byte _ => false

/-- Slots that depend on the order of the bytes of numbers and on where they begin. -/
structure Template where
  /-- The slots from a position on. -/
  slotsAt : ByteOrder → Nat → List Slot

namespace Template

/-- The number of slots from a position on. -/
def size (t : Template) (order : ByteOrder) (pos : Nat) : Nat :=
  (t.slotsAt order pos).length

/-- Bytes that depend on nothing. -/
def fixed (bs : List UInt8) : Template := ⟨fun _ _ => bs.map .byte⟩

/-- Padding up to a multiple of `align`. -/
def padding (align : Nat) : Template :=
  ⟨fun _ pos => List.replicate (paddingTo align pos) .padding⟩

/-- A number of a fixed width. -/
def number (width n : Nat) : Template :=
  ⟨fun order _ => (order.encode width n).map .byte⟩

/-- One template behind another. -/
instance : Append Template where
  append s t := ⟨fun order pos => s.slotsAt order pos ++ t.slotsAt order (pos + s.size order pos)⟩

/-- A text: the number of its bytes, the bytes, and a zero. -/
def text (width : Nat) (s : String) : Template :=
  number width s.toUTF8.size ++ fixed (Bytes.utf8 s ++ [0])

/-- Where the elements begin of an array whose length stands at a position. -/
def behindLength (align pos : Nat) : Nat :=
  pos + 4 + paddingTo align (pos + 4)

/-- An array: the number of bytes of its elements, padding, and the elements. -/
def array (align : Nat) (elements : Template) : Template :=
  ⟨fun order pos =>
    (number 4 (elements.size order (behindLength align pos)) ++ padding align
      ++ elements).slotsAt order pos⟩

/-- A template with zeros for its padding. -/
def zeroed (t : Template) : Layout :=
  ⟨fun order pos => (t.slotsAt order pos).map Slot.fill⟩

section

variable (s t : Template) (order : ByteOrder) (pos : Nat)

theorem slotsAt_append :
    (s ++ t).slotsAt order pos
      = s.slotsAt order pos ++ t.slotsAt order (pos + s.size order pos) := rfl

theorem size_append :
    (s ++ t).size order pos = s.size order pos + t.size order (pos + s.size order pos) :=
  List.length_append

theorem append_assoc (u : Template) : s ++ t ++ u = s ++ (t ++ u) := by
  refine congrArg Template.mk (funext fun order => funext fun pos => ?_)
  simp only [slotsAt_append, size_append, List.append_assoc, Nat.add_assoc]

theorem append_fixed_nil : t ++ fixed [] = t :=
  congrArg Template.mk (funext fun _ => funext fun _ => List.append_nil _)

theorem size_padding (align : Nat) : (padding align).size order pos = paddingTo align pos :=
  List.length_replicate

theorem size_number (width n : Nat) : (number width n).size order pos = width := by
  rw [size, number, List.length_map, ByteOrder.encode_length]

/-- The first element of an array stands behind the length of the array. -/
theorem size_array_head (align length : Nat) :
    pos + (padding 4 ++ number 4 length ++ padding align).size order pos
      = Layout.firstElement align pos := by
  rw [size_append, size_append, size_padding, size_padding, size_number, Layout.firstElement]
  simp only [Nat.add_assoc]

theorem size_zeroed : t.zeroed.size order pos = t.size order pos :=
  List.length_map _

/-! ### Zeros for the padding -/

theorem zeroed_append : (s ++ t).zeroed = s.zeroed ++ t.zeroed := by
  refine congrArg Layout.mk (funext fun order => funext fun pos => ?_)
  rw [slotsAt_append, List.map_append, ← size_zeroed]
  rfl

theorem zeroed_fixed (bs : List UInt8) : (fixed bs).zeroed = .fixed bs := by
  refine congrArg Layout.mk (funext fun order => funext fun pos => ?_)
  simp [fixed, Function.comp_def, Slot.fill]

theorem zeroed_padding (align : Nat) : (padding align).zeroed = .padding align := by
  refine congrArg Layout.mk (funext fun order => funext fun pos => ?_)
  rw [padding, List.map_replicate]
  rfl

theorem zeroed_number (width n : Nat) : (number width n).zeroed = .encoded width n := by
  refine congrArg Layout.mk (funext fun order => funext fun pos => ?_)
  simp [number, Function.comp_def, Slot.fill]

/-- A number behind the padding that it needs. -/
theorem zeroed_padded_number (width n : Nat) :
    (padding width ++ number width n).zeroed = .number width n := by
  rw [zeroed_append, zeroed_padding, zeroed_number, Layout.number]

theorem zeroed_padded_text (width : Nat) (s : String) :
    (padding width ++ text width s).zeroed = .text width s := by
  rw [text, ← append_assoc, zeroed_append, zeroed_padded_number, zeroed_fixed, Layout.text]

theorem slotsAt_array (align : Nat) :
    (array align t).slotsAt order pos =
      (number 4 (t.size order (behindLength align pos)) ++ padding align ++ t).slotsAt order pos :=
  rfl

/-- An array behind the padding of its length is a padded number, padding, and the elements. -/
theorem slotsAt_padded_array (align : Nat) :
    (padding 4 ++ array align t).slotsAt order pos =
      (padding 4 ++ number 4 (t.size order (Layout.firstElement align pos)) ++ padding align
        ++ t).slotsAt order pos := by
  rw [append_assoc, append_assoc, slotsAt_append, slotsAt_append (padding 4), size_padding,
    ← append_assoc]
  rfl

theorem zeroed_padded_array (align : Nat) :
    (padding 4 ++ array align t).zeroed = .array align t.zeroed := by
  refine congrArg Layout.mk (funext fun order => funext fun pos => ?_)
  rw [slotsAt_padded_array]
  show (zeroed _).bytesAt order pos = _
  rw [zeroed_append, zeroed_append, zeroed_padded_number, zeroed_padding, size_zeroed]

end

end Template

/-! ### Alignments -/

/-- The alignment of the types whose signatures begin with a code. -/
def codeAlignment : Char → Nat
  | 'y' | 'g' | 'v' => 1
  | 'n' | 'q' => 2
  | 'b' | 'i' | 'u' | 's' | 'o' | 'h' | 'a' => 4
  | _ => 8

namespace Ty

/-- The alignment that belongs to the signature of a type. -/
def wireAlignment (t : Ty) : Nat :=
  (t.spelling.head?.map codeAlignment).getD 1

theorem wireAlignment_eq (t : Ty) : t.wireAlignment = t.alignment := by
  cases t with
  | basic b => cases b <;> rfl
  | variant => rfl
  | array element => simp [wireAlignment, spelling, codeAlignment, alignment]
  | struct fields => simp [wireAlignment, spelling, codeAlignment, alignment]
  | entry k v => simp [wireAlignment, spelling, codeAlignment, alignment]

end Ty

/-- Padding leads to a multiple of the alignment. -/
theorem dvd_add_paddingTo {align : Nat} (h : 0 < align) (pos : Nat) :
    align ∣ pos + paddingTo align pos := by
  have hlt := Nat.mod_lt pos h
  rw [Nat.dvd_iff_mod_eq_zero, paddingTo, Nat.add_mod_mod, ← Nat.mod_add_mod,
    Nat.add_sub_cancel' (Nat.le_of_lt hlt), Nat.mod_self]

/-- There is no padding at a multiple of the alignment. -/
theorem Template.slotsAt_padding_append {align pos : Nat} (h : align ∣ pos) (order : ByteOrder)
    (t : Template) : (padding align ++ t).slotsAt order pos = t.slotsAt order pos := by
  have hnone : paddingTo align pos = 0 := by
    rw [paddingTo, Nat.dvd_iff_mod_eq_zero.1 h, Nat.sub_zero, Nat.mod_self]
  rw [slotsAt_append, size_padding, hnone, Nat.add_zero]
  dsimp only [padding]
  rw [hnone, List.replicate_zero, List.nil_append]

/-- Everything may stand where a struct may. -/
theorem Ty.alignment_dvd (t : Ty) : t.alignment ∣ 8 := by
  cases t with
  | basic b => cases b <;> decide
  | variant | array element | struct fields | entry k v => simp only [Ty.alignment]; decide

/-! ### Values -/

namespace Value

open Template

mutual

/-- What stands behind the padding of a value. -/
def contents : Value → Template
  | .byte n => number 1 n.toNat
  | .boolean b => number 4 (if b then 1 else 0)
  | .int16 n => number 2 n.toUInt16.toNat
  | .uint16 n => number 2 n.toNat
  | .int32 n => number 4 n.toUInt32.toNat
  | .uint32 n => number 4 n.toNat
  | .int64 n => number 8 n.toUInt64.toNat
  | .uint64 n => number 8 n.toNat
  | .double bits => number 8 bits.toNat
  | .string s => text 4 s
  | .objectPath p => text 4 p.text
  | .signature s => text 1 s.text
  | .unixFd index => number 4 index.toNat
  | .variant payload =>
    text 1 payload.spelling ++ (padding payload.ty.wireAlignment ++ contents payload)
  | .array element vs => Template.array element.wireAlignment (templates vs)
  | .dict k v es => Template.array (Ty.entry k v).wireAlignment (entryTemplates es)
  | .struct fields => templates fields

/-- Values one after the other, each with its padding. -/
def templates : List Value → Template
  | [] => fixed []
  | v :: vs => padding v.ty.wireAlignment ++ contents v ++ templates vs

/-- The entries of a dict, each with its padding. -/
def entryTemplates : List (Value × Value) → Template
  | [] => fixed []
  | (a, b) :: es =>
    padding (Ty.entry a.ty b.ty).wireAlignment ++ (padding a.ty.wireAlignment ++ contents a)
      ++ (padding b.ty.wireAlignment ++ contents b) ++ entryTemplates es

end

/-- A value: the padding up to the alignment of its type, and its contents. -/
def template (v : Value) : Template :=
  padding v.ty.wireAlignment ++ contents v

/-- The bytes that stand for a value from a position on. -/
def marshalled (v : Value) (order : ByteOrder) (pos : Nat) : List UInt8 :=
  (v.template.slotsAt order pos).map Slot.fill

mutual

/-- The two descriptions of the wire format agree. -/
theorem zeroed_template : ∀ v : Value, v.template.zeroed = v.layout
  | .byte _ | .boolean _ | .int16 _ | .uint16 _ | .int32 _ | .uint32 _ | .int64 _ | .uint64 _
  | .double _ | .unixFd _ => zeroed_padded_number ..
  | .string _ | .objectPath _ | .signature _ => zeroed_padded_text ..
  | .variant payload => by
    rw [template, contents, ← append_assoc, zeroed_append, layout, ← zeroed_template payload]
    exact congrArg (· ++ _) (zeroed_padded_text ..)
  | .array element vs => by
    rw [template, contents, layout, ← zeroed_templates vs, ← Ty.wireAlignment_eq]
    exact zeroed_padded_array ..
  | .dict k v es => by
    rw [template, contents, layout, ← zeroed_entryTemplates es]
    exact zeroed_padded_array ..
  | .struct fields => by
    rw [template, contents, zeroed_append, zeroed_templates fields, Ty.wireAlignment_eq,
      zeroed_padding]
    rfl

theorem zeroed_templates : ∀ vs : List Value, (templates vs).zeroed = layouts vs
  | [] => zeroed_fixed []
  | v :: vs => by
    rw [templates, zeroed_append, zeroed_templates vs, layouts, ← zeroed_template v]
    rfl

theorem zeroed_entryTemplates : ∀ es : List (Value × Value),
    (entryTemplates es).zeroed = entryLayouts es
  | [] => zeroed_fixed []
  | (a, b) :: es => by
    rw [entryTemplates, zeroed_append, zeroed_append, zeroed_append, zeroed_entryTemplates es,
      entryLayouts, ← zeroed_template a, ← zeroed_template b, Ty.wireAlignment_eq, zeroed_padding]
    rfl

end

/-! ### Where the padding ends -/

theorem exists_cons_number {order : ByteOrder} {pos width n : Nat} {s : Template}
    (h : 0 < width) :
    ∃ b rest, (number width n ++ s).slotsAt order pos = .byte b :: rest := by
  obtain ⟨b, bs, hbs⟩ := List.exists_cons_of_length_pos
    (Nat.lt_of_lt_of_eq h (ByteOrder.encode_length order width n).symm)
  have hslots : (number width n).slotsAt order pos = .byte b :: bs.map .byte :=
    congrArg (List.map Slot.byte) hbs
  exact ⟨b, _, by rw [slotsAt_append, hslots]; rfl⟩

/-- The contents of a value that a signature can spell begin with a byte, if they stand at a
multiple of the alignment. -/
theorem exists_cons_contents (order : ByteOrder) {pos : Nat} :
    ∀ {v : Value}, v.ty.isShaped = true → v.ty.alignment ∣ pos →
      ∃ b rest, v.contents.slotsAt order pos = .byte b :: rest
  | .byte _, _, _ | .boolean _, _, _ | .int16 _, _, _ | .uint16 _, _, _ | .int32 _, _, _
  | .uint32 _, _, _ | .int64 _, _, _ | .uint64 _, _, _ | .double _, _, _ | .unixFd _, _, _ => by
    rw [contents, ← append_fixed_nil (number _ _)]
    exact exists_cons_number (by decide)
  | .string _, _, _ | .objectPath _, _, _ | .signature _, _, _ =>
    exists_cons_number (by decide)
  | .variant _, _, _ => by
    rw [contents, text, append_assoc]
    exact exists_cons_number (by decide)
  | .array _ _, _, _ | .dict _ _ _, _, _ => by
    rw [contents, slotsAt_array, append_assoc]
    exact exists_cons_number (by decide)
  | .struct [], h, _ => by simp [ty, tys, Ty.isShaped] at h
  | .struct (v :: vs), h, hpos => by
    have hv : v.ty.isShaped = true := by
      simp only [ty, tys, Ty.isShaped, Ty.areShaped, Bool.and_eq_true] at h
      exact h.2.1
    have hdvd : v.ty.alignment ∣ pos := Nat.dvd_trans v.ty.alignment_dvd hpos
    obtain ⟨b, rest, hb⟩ := exists_cons_contents order hv hdvd
    rw [← slotsAt_padding_append hdvd, ← Ty.wireAlignment_eq] at hb
    exact ⟨b, _, by rw [contents, templates, slotsAt_append, hb]; rfl⟩

theorem takeWhile_replicate_append {n : Nat} {b : UInt8} {rest : List Slot} :
    (List.replicate n Slot.padding ++ .byte b :: rest).takeWhile Slot.isPadding
      = List.replicate n .padding := by
  rw [List.takeWhile_append_of_pos (by simp [Slot.isPadding]),
    List.takeWhile_cons_of_neg (by simp [Slot.isPadding]), List.append_nil]

/-- A value begins with exactly as much padding as its type asks for. -/
theorem takeWhile_isPadding_template {v : Value} (h : v.ty.isShaped = true) (order : ByteOrder)
    (pos : Nat) :
    (v.template.slotsAt order pos).takeWhile Slot.isPadding
      = List.replicate (paddingTo v.ty.alignment pos) .padding := by
  have hpos : 0 < v.ty.alignment := Nat.pos_of_dvd_of_pos v.ty.alignment_dvd (by decide)
  obtain ⟨b, rest, hb⟩ := exists_cons_contents order h (dvd_add_paddingTo hpos pos)
  rw [template, slotsAt_append, size_padding, Ty.wireAlignment_eq, hb]
  exact takeWhile_replicate_append

end Value

/-! ### The writer -/

namespace Write

/-- What a writer appends for a value is the marshalled value at the end of the body: zeros up to the
alignment that belongs to the code of its type, then the contents, and so on for what stands inside
it. The table of alignments by which arrays are started agrees with those codes, and every element of
a type that a signature can spell inserts just the padding that the table says. -/
theorem value_marshalled {v : Value} {w w' : Writer} (h : value v w = .ok () w') :
    w'.order = w.order ∧
    w'.bytes.data.toList = w.bytes.data.toList ++ v.marshalled w.order w.length ∧
    (∀ t : Ty, t.alignment = t.wireAlignment) ∧
    ∀ t : Ty, t.isShaped = true → v.hasType t = true →
      (v.template.slotsAt w.order w.length).takeWhile Slot.isPadding
        = List.replicate (paddingTo t.alignment w.length) .padding := by
  obtain ⟨rfl, -, -⟩ := value_ok h
  refine ⟨rfl, ?_, fun t => t.wireAlignment_eq.symm, fun t hshape ht => ?_⟩
  · rw [Writer.toList_append, ← Value.zeroed_template]
    rfl
  · obtain rfl := Value.ty_of_hasType ht
    exact Value.takeWhile_isPadding_template hshape ..

/-- A struct of an array without elements that is padded all the same, a byte, and a dict. -/
def paddedStruct : Value :=
  .struct [.array (.basic .uint64) [], .byte 7,
    .dict (.basic .byte) .variant [(.byte 3, .variant (.uint16 258))]]

theorem value_marshalled_paddedStruct :
    ∃ w', value paddedStruct ⟨.big, ⟨#[9, 9, 9]⟩⟩ = .ok () w' ∧
      w'.bytes.data.toList = [9, 9, 9] ++ paddedStruct.marshalled .big 3 ∧
      paddedStruct.marshalled .big 3 =
        [0, 0, 0, 0, 0,  0, 0, 0, 0,  0, 0, 0, 0,  7,  0, 0, 0,  0, 0, 0, 6,  3,  1, 113, 0,  1, 2] ∧
      (paddedStruct.template.slotsAt .big 3).takeWhile Slot.isPadding
        = List.replicate 5 .padding := by
  obtain ⟨w', h⟩ : ∃ w', value paddedStruct ⟨.big, ⟨#[9, 9, 9]⟩⟩ = .ok () w' := ⟨_, rfl⟩
  obtain ⟨-, hbytes, -, hpadding⟩ := value_marshalled h
  exact ⟨w', h, hbytes, by decide, hpadding paddedStruct.ty (by decide) (by decide)⟩

end Write

end DBus
