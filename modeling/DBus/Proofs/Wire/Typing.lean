import DBus.Proofs.Wire.Boxing
import DBus.Proofs.Wire.Decoding

/-!
# Values that are read are typed

A value that is read is of the type that was asked for, and so are its parts, all the way down: the
elements of arrays, the keys and values of dicts and the fields of structs are of the types declared
for them, and the payload of a variant is of the type that the signature before it spells. So the
signature by which a body was boxed is never held against the value when it is unboxed.
-/

namespace DBus

namespace Value

/-- Whether a value is of a type all the way down. The type of a struct lists the types of its fields,
and a signature spells the type of what a variant holds. -/
inductive WellTyped : Ty → Value → Prop
  | basic {b : BasicType} {v : Value} (h : v.ty = .basic b) : WellTyped (.basic b) v
  | variant {payload : Value} (spelled : Ty.parse payload.spelling = .ok payload.ty)
      (h : WellTyped payload.ty payload) : WellTyped .variant (.variant payload)
  | array {element : Ty} {vs : List Value} (h : ∀ a ∈ vs, WellTyped element a) :
      WellTyped (.array element) (.array element vs)
  | dict {k t : Ty} {es : List (Value × Value)} (hkey : ∀ e ∈ es, WellTyped k e.1)
      (hvalue : ∀ e ∈ es, WellTyped t e.2) : WellTyped (.array (.entry k t)) (.dict k t es)
  | struct {fields : List Value} (h : ∀ a ∈ fields, WellTyped a.ty a) :
      WellTyped (.struct (tys fields)) (.struct fields)

theorem WellTyped.ty_eq {t : Ty} {v : Value} (h : WellTyped t v) : v.ty = t := by
  cases h with
  | basic h => exact h
  | variant | array | dict | struct => rfl

end Value

/-! ### What actions give -/

namespace Read

open Value

variable {α β : Type}

/-- Whether all that an action gives has a property. -/
def Yields (x : Read α) (P : α → Prop) : Prop :=
  ∀ r a r', x r = .ok a r' → P a

section

variable {x : Read α} {f : α → Read β} {P : α → Prop} {Q : β → Prop}

theorem Yields.bind (hx : Yields x P) (hf : ∀ a, P a → Yields (f a) Q) : Yields (x >>= f) Q := by
  intro r b r' h
  obtain ⟨a, r₁, ha, hb⟩ := bind_apply_eq_ok_iff.1 h
  exact hf a (hx r a r₁ ha) r₁ b r' hb

/-- What comes last has the property, whatever comes first. -/
theorem Yields.last (hf : ∀ a, Yields (f a) Q) : Yields (x >>= f) Q :=
  Yields.bind (P := fun _ => True) (fun _ _ _ _ => trivial) fun a _ => hf a

theorem Yields.pure {a : α} (h : P a) : Yields (pure a) P := by
  intro r a r' hread
  cases hread
  exact h

theorem Yields.throw (e : Error) : Yields (throw e : Read α) P := by
  intro r a r' hread
  cases hread

/-- What a step gives that is repeated. -/
theorem Yields.of_untilEmpty (hx : Yields x P) : ∀ {fuel : Nat} {found all : List α} {r : Reader},
    (∀ a ∈ found, P a) → Reader.untilEmpty x fuel found r = .ok all → ∀ a ∈ all, P a := by
  intro fuel
  induction fuel with
  | zero =>
    intro found all r hfound h
    rw [Reader.untilEmpty] at h
    split at h
    · cases h
      exact fun a ha => hfound a (List.mem_reverse.1 ha)
    · cases h
  | succ fuel ih =>
    intro found all r hfound h
    rw [Reader.untilEmpty] at h
    split at h
    · cases h
      exact fun a ha => hfound a (List.mem_reverse.1 ha)
    · split at h
      · next a r₁ ha => exact ih (List.forall_mem_cons.2 ⟨hx r a r₁ ha, hfound⟩) h
      · cases h

theorem Yields.arrayOf (hx : Yields x P) (elementAlign : Nat) :
    Yields (arrayOf elementAlign x) (fun as => ∀ a ∈ as, P a) := by
  refine Yields.last fun elements => ?_
  intro r as r' h
  cases hall : Reader.all x elements with
  | ok found =>
    rw [hall] at h
    cases h
    exact hx.of_untilEmpty (List.forall_mem_nil _) hall
  | error e =>
    rw [hall] at h
    cases h

end

/-! ### Values -/

theorem yields_typeOf (s : String) : Yields (typeOf s) (fun t => Ty.parse s = .ok t) := by
  unfold typeOf
  cases Ty.parse s with
  | ok t => exact .pure rfl
  | error e => exact .throw _

theorem yields_basic (b : BasicType) : Yields (basic b) (WellTyped (.basic b)) := by
  cases b <;> exact Yields.last fun _ => .pure (.basic rfl)

section

variable {nested : Read Value} {t k : Ty} {ts : List Ty}

theorem yields_array (h : Yields (typed nested t) (WellTyped t)) :
    Yields (arrayOf t.alignment (typed nested t) >>= fun vs => Pure.pure (.array t vs))
      (WellTyped (.array t)) :=
  (h.arrayOf t.alignment).bind fun _ hvs => .pure (.array hvs)

theorem yields_dict (hk : Yields (typed nested k) (WellTyped k))
    (ht : Yields (typed nested t) (WellTyped t)) :
    Yields (typed nested (.array (.entry k t))) (WellTyped (.array (.entry k t))) := by
  have hentry : Yields (entry nested k t) (fun e => WellTyped k e.1 ∧ WellTyped t e.2) :=
    Yields.last fun _ => hk.bind fun _ ha => ht.bind fun _ hb => .pure ⟨ha, hb⟩
  exact (hentry.arrayOf 8).bind fun es hes =>
    .pure (.dict (fun e he => (hes e he).1) fun e he => (hes e he).2)

/-- The fields of a struct are of the types that the struct declares. -/
theorem yields_struct
    (h : Yields (typedAll nested ts) (fun vs => tys vs = ts ∧ ∀ a ∈ vs, WellTyped a.ty a)) :
    Yields (typed nested (.struct ts)) (WellTyped (.struct ts)) := by
  refine Yields.last fun _ => h.bind fun vs hvs => .pure ?_
  obtain ⟨rfl, hfields⟩ := hvs
  exact .struct hfields

mutual

/-- What is read of a type is of that type all the way down, if the payloads of variants are. -/
theorem yields_typed
    (hnested : Yields nested fun p => Ty.parse p.spelling = .ok p.ty ∧ WellTyped p.ty p) :
    ∀ t : Ty, Yields (typed nested t) (WellTyped t)
  | .basic b => yields_basic b
  | .variant => hnested.bind fun _ hp => .pure (.variant hp.1 hp.2)
  | .array (.basic b) => yields_array (yields_typed hnested (.basic b))
  | .array .variant => yields_array (yields_typed hnested .variant)
  | .array (.array t) => yields_array (yields_typed hnested (.array t))
  | .array (.struct ts) => yields_array (yields_typed hnested (.struct ts))
  | .array (.entry k t) => yields_dict (yields_typed hnested k) (yields_typed hnested t)
  | .struct ts => yields_struct (yields_typedAll hnested ts)
  | .entry _ _ => .throw _

theorem yields_typedAll
    (hnested : Yields nested fun p => Ty.parse p.spelling = .ok p.ty ∧ WellTyped p.ty p) :
    ∀ ts : List Ty, Yields (typedAll nested ts) fun vs =>
      tys vs = ts ∧ ∀ a ∈ vs, WellTyped a.ty a
  | [] => .pure ⟨rfl, nofun⟩
  | t :: ts => by
    refine (yields_typed hnested t).bind fun v hv => ?_
    refine (yields_typedAll hnested ts).bind fun vs hvs => .pure ⟨?_, ?_⟩
    · rw [tys, hv.ty_eq, hvs.1]
    · exact List.forall_mem_cons.2 ⟨hv.ty_eq ▸ hv, hvs.2⟩

end

end

/-- The payload of a variant is of the type that its signature spells. -/
theorem yields_variantWithin : ∀ depth : Nat, Yields (variantWithin depth) fun p =>
    Ty.parse p.spelling = .ok p.ty ∧ WellTyped p.ty p
  | 0 => Yields.last fun _ => Yields.last fun _ => .throw _
  | depth + 1 => by
    refine Yields.last fun s => (yields_typeOf s.text).bind fun t ht => ?_
    intro r p r' h
    have hp := yields_typed (yields_variantWithin depth) t r p r' h
    obtain rfl := hp.ty_eq
    rw [Value.spelling, Ty.signature_of_parse ht]
    exact ⟨ht, hp⟩

end Read

/-! ### Where the signatures of variants stand -/

namespace Value

open Layout

mutual

/-- The payloads of the variants in a value that begins at a position, each with the position at
which its variant begins. -/
def variantsAt (order : ByteOrder) (pos : Nat) : Value → List (Nat × Value)
  | .variant payload =>
    (pos, payload) :: variantsAt order (pos + (text 1 payload.spelling).size order pos) payload
  | .array element vs => allVariantsAt order (firstElement element.alignment pos) vs
  | .dict _ _ es => entryVariantsAt order (firstElement 8 pos) es
  | .struct fields => allVariantsAt order (pos + paddingTo 8 pos) fields
  | _ => []

/-- The payloads of the variants in some values that stand one behind the other. -/
def allVariantsAt (order : ByteOrder) (pos : Nat) : List Value → List (Nat × Value)
  | [] => []
  | v :: vs => variantsAt order pos v ++ allVariantsAt order (pos + (layout v).size order pos) vs

/-- The payloads of the variants in some entries. -/
def entryVariantsAt (order : ByteOrder) (pos : Nat) : List (Value × Value) → List (Nat × Value)
  | [] => []
  | (a, b) :: es =>
    variantsAt order (pos + (padding 8).size order pos) a
      ++ variantsAt order (pos + (padding 8 ++ layout a).size order pos) b
      ++ entryVariantsAt order (pos + (padding 8 ++ layout a ++ layout b).size order pos) es

end

/-- The signature of a value stands at a position of a body: the number of its bytes, the bytes, and
a zero. It spells the type of the value. -/
structure Announced (data : ByteArray) (pos : Nat) (v : Value) : Prop where
  spelled : Ty.parse v.spelling = .ok v.ty
  short : (Bytes.utf8 v.spelling).length < 256
  bytes : (data.data.toList.drop pos).take ((Bytes.utf8 v.spelling).length + 2)
    = UInt8.ofNat (Bytes.utf8 v.spelling).length :: (Bytes.utf8 v.spelling ++ [0])

/-- Wherever the template of a value stands, the payloads of its variants are announced. -/
def Announces (order : ByteOrder) (v : Value) : Prop :=
  ∀ r : Reader, r.Shows (v.template.slotsAt order r.pos) →
    ∀ q ∈ v.variantsAt order r.pos, Announced r.data q.1 q.2

section

variable {order : ByteOrder} {r : Reader} {v : Value}

/-- Templates stand one behind the other. -/
theorem shows_append {S T : Template} (h : r.Shows ((S ++ T).slotsAt order r.pos)) :
    r.Shows (S.slotsAt order r.pos) ∧
      (r.skip (S.size order r.pos)).Shows
        (T.slotsAt order (r.skip (S.size order r.pos)).pos) :=
  ⟨h.left, h.right⟩

/-- The elements of an array stand where the first one begins. -/
theorem shows_elements {align : Nat} {T : Template}
    (h : r.Shows ((Template.padding 4 ++ Template.array align T).slotsAt order r.pos)) :
    ∃ n, (r.skip n).pos = firstElement align r.pos ∧
      (r.skip n).Shows (T.slotsAt order (r.skip n).pos) := by
  rw [Template.slotsAt_padded_array] at h
  exact ⟨_, Template.size_array_head .., (shows_append h).2⟩

/-- What stands where the template of a variant does. -/
theorem announced_of_shows (hspelled : Ty.parse v.spelling = .ok v.ty)
    (h : r.Shows ((Template.padding 1 ++ Template.text 1 v.spelling).slotsAt order r.pos)) :
    Announced r.data r.pos v := by
  have hslots : (Template.padding 1 ++ Template.text 1 v.spelling).slotsAt order r.pos
      = (UInt8.ofNat (Bytes.utf8 v.spelling).length :: (Bytes.utf8 v.spelling ++ [0])).map
        Slot.byte := by
    have hlength : (Template.number 1 v.spelling.toUTF8.size).slotsAt order r.pos
        = [.byte (UInt8.ofNat v.spelling.toUTF8.size)] :=
      congrArg (List.map Slot.byte) (ByteOrder.encode_one ..)
    rw [Template.slotsAt_padding_append (Nat.one_dvd _), Template.text, Template.slotsAt_append,
      hlength, Bytes.length_utf8]
    rfl
  rw [hslots] at h
  have hbytes := h.bytes_eq
  rw [List.length_cons, List.length_append, List.length_singleton] at hbytes
  exact ⟨hspelled, Read.length_lt_of_parse hspelled, hbytes⟩

theorem announced_of_all : ∀ {vs : List Value} {r : Reader}, (∀ a ∈ vs, a.Announces order) →
    r.Shows ((templates vs).slotsAt order r.pos) →
    ∀ q ∈ allVariantsAt order r.pos vs, Announced r.data q.1 q.2
  | [], _, _, _ => nofun
  | v :: vs, r, hall, h => by
    obtain ⟨hv, hvs⟩ := List.forall_mem_cons.1 hall
    obtain ⟨hfirst, hrest⟩ := shows_append (S := v.template) h
    rw [size_template] at hrest
    exact List.forall_mem_append.2 ⟨hv r hfirst, announced_of_all hvs hrest⟩

theorem announced_of_entries : ∀ {es : List (Value × Value)} {r : Reader},
    (∀ e ∈ es, e.1.Announces order ∧ e.2.Announces order) →
    r.Shows ((entryTemplates es).slotsAt order r.pos) →
    ∀ q ∈ entryVariantsAt order r.pos es, Announced r.data q.1 q.2
  | [], _, _, _ => nofun
  | (a, b) :: es, r, hall, h => by
    obtain ⟨⟨ha, hb⟩, hes⟩ := List.forall_mem_cons.1 hall
    rw [entryTemplates_cons] at h
    obtain ⟨hpair, hrest⟩ := shows_append h
    obtain ⟨hfirst, hsecond⟩ := shows_append hpair
    obtain ⟨-, hfirst⟩ := shows_append hfirst
    rw [size_entryTemplate] at hrest
    rw [size_key] at hsecond
    rw [Template.size_padding, ← Layout.size_padding] at hfirst
    have hkey := ha _ hfirst
    have hvalue := hb _ hsecond
    exact List.forall_mem_append.2
      ⟨List.forall_mem_append.2 ⟨hkey, hvalue⟩, announced_of_entries hes hrest⟩

end

/-- In a value that is well typed, the payloads of all variants are announced. -/
theorem WellTyped.announces {t : Ty} {v : Value} (order : ByteOrder) (h : WellTyped t v) :
    v.Announces order := by
  induction h with
  | @basic b v h =>
    cases v with
    | variant _ | array _ _ | dict _ _ _ | struct _ => cases h
    | _ => exact fun _ _ => List.forall_mem_nil _
  | @variant payload hspelled _ ih =>
    intro r h
    rw [template_variant] at h
    obtain ⟨hfirst, hrest⟩ := shows_append h
    rw [size_padded_text] at hrest
    exact List.forall_mem_cons.2 ⟨announced_of_shows hspelled hfirst, ih _ hrest⟩
  | @array element vs _ ih =>
    intro r h
    rw [template_array] at h
    obtain ⟨n, hpos, helements⟩ := shows_elements h
    have hall := announced_of_all ih helements
    rwa [hpos] at hall
  | @dict k t es _ _ hkey hvalue =>
    intro r h
    rw [template_dict] at h
    obtain ⟨n, hpos, hentries⟩ := shows_elements h
    have hall := announced_of_entries (fun e he => ⟨hkey e he, hvalue e he⟩) hentries
    rwa [hpos] at hall
  | @struct fields _ ih =>
    intro r h
    rw [template_struct] at h
    obtain ⟨-, hfields⟩ := shows_append h
    rw [Template.size_padding] at hfields
    exact announced_of_all ih hfields

end Value

/-! ### Writing what was read -/

/-- Whether an error is about the type of a value. -/
def Error.isAboutTypes : Error → Bool
  | .signature _ | .invalidVariant _ | .unexpectedSignature _ _ => true
  | _ => false

namespace Write

open Value

variable {α β : Type}

/-- Whether an action finds no fault with any type. -/
def Tolerates (x : Write α) : Prop :=
  ∀ w e w', x w = .error e w' → e.isAboutTypes = false

theorem Tolerates.bind {x : Write α} {f : α → Write β} (hx : Tolerates x)
    (hf : ∀ a, Tolerates (f a)) : Tolerates (x >>= f) := by
  intro w e w' h
  cases hw : x w with
  | ok a w₁ =>
    rw [bind_apply_of_ok hw] at h
    exact hf a w₁ e w' h
  | error e₁ w₁ =>
    rw [bind_apply_of_error hw] at h
    cases h
    exact hx w e w' hw

theorem Tolerates.pure (a : α) : Tolerates (Pure.pure a : Write α) := nofun

theorem Tolerates.throw {e : Error} (h : e.isAboutTypes = false) :
    Tolerates (throw e : Write α) := by
  intro w e' w' hthrow
  cases hthrow
  exact h

theorem Tolerates.get : Tolerates (get : Write Writer) := nofun

theorem tolerates_edit (f : ByteArray → ByteArray) : Tolerates (edit f) := nofun

theorem tolerates_align (n : Nat) : Tolerates (align n) := tolerates_edit _

theorem tolerates_checkLength : Tolerates checkLength := by
  refine Tolerates.get.bind fun w => ?_
  dsimp only
  split
  · exact .throw rfl
  · exact .pure ()

theorem tolerates_number (width n : Nat) : Tolerates (number width n) :=
  (tolerates_align width).bind fun _ => Tolerates.get.bind fun _ =>
    (tolerates_edit _).bind fun _ => tolerates_checkLength

theorem tolerates_terminated (text : ByteArray) : Tolerates (terminated text) :=
  (tolerates_edit _).bind fun _ => tolerates_checkLength

theorem tolerates_string (s : String) : Tolerates (string s) := by
  unfold string
  dsimp only
  split
  · exact .throw rfl
  · split
    · exact .throw rfl
    · exact (tolerates_number _ _).bind fun _ => tolerates_terminated _

theorem tolerates_signature (s : Signature) : Tolerates (signature s) :=
  (tolerates_number _ _).bind fun _ => tolerates_terminated _

theorem tolerates_arrayStart (elementAlign : Nat) : Tolerates (arrayStart elementAlign) :=
  (tolerates_align 4).bind fun _ => Tolerates.get.bind fun _ => (tolerates_edit _).bind fun _ =>
    (tolerates_align elementAlign).bind fun _ => tolerates_checkLength.bind fun _ =>
      Tolerates.get.bind fun _ => .pure _

theorem tolerates_arrayEnd (a : OpenArray) : Tolerates (arrayEnd a) := by
  refine Tolerates.get.bind fun w => ?_
  dsimp only
  split
  · exact .throw rfl
  · exact tolerates_edit _

theorem Tolerates.array {body : Write Unit} (h : Tolerates body) (elementAlign : Nat) :
    Tolerates (arrayStart elementAlign >>= fun a => body >>= fun _ => arrayEnd a) :=
  (tolerates_arrayStart elementAlign).bind fun a => h.bind fun _ => tolerates_arrayEnd a

theorem tolerates_checkType {v : Value} {t : Ty} (h : v.ty = t) : Tolerates (checkType v t) := by
  unfold checkType
  rw [if_pos (hasType_iff.2 h)]
  exact .pure ()

theorem tolerates_typeOf {v : Value} (h : Ty.parse v.spelling = .ok v.ty) :
    Tolerates (typeOf v) := by
  have hok := Signature.ofString_isOk_of_parse h
  unfold typeOf
  cases hs : Signature.ofString v.spelling with
  | ok s => exact tolerates_signature s
  | error e =>
    rw [hs] at hok
    cases hok

theorem tolerates_values : ∀ {vs : List Value}, (∀ a ∈ vs, Tolerates (value a)) →
    Tolerates (values vs)
  | [], _ => .pure ()
  | v :: vs, h => by
    obtain ⟨hv, hvs⟩ := List.forall_mem_cons.1 h
    exact hv.bind fun _ => tolerates_values hvs

theorem tolerates_elements {element : Ty} : ∀ {vs : List Value},
    (∀ a ∈ vs, a.ty = element ∧ Tolerates (value a)) → Tolerates (elements element vs)
  | [], _ => .pure ()
  | v :: vs, h => by
    obtain ⟨⟨hty, hv⟩, hvs⟩ := List.forall_mem_cons.1 h
    exact (tolerates_checkType hty).bind fun _ => hv.bind fun _ => tolerates_elements hvs

theorem tolerates_entries {k t : Ty} : ∀ {es : List (Value × Value)},
    (∀ e ∈ es, (e.1.ty = k ∧ Tolerates (value e.1)) ∧ e.2.ty = t ∧ Tolerates (value e.2)) →
    Tolerates (entries k t es)
  | [], _ => .pure ()
  | (a, b) :: es, h => by
    obtain ⟨⟨⟨hk, ha⟩, ht, hb⟩, hes⟩ := List.forall_mem_cons.1 h
    exact (tolerates_checkType hk).bind fun _ => (tolerates_checkType ht).bind fun _ =>
      (tolerates_align 8).bind fun _ => ha.bind fun _ => hb.bind fun _ => tolerates_entries hes

/-- The writer finds no fault with the types in a value that is well typed. -/
theorem tolerates_value {t : Ty} {v : Value} (h : WellTyped t v) : Tolerates (value v) := by
  induction h with
  | @basic b v h =>
    cases v with
    | variant _ | array _ _ | dict _ _ _ | struct _ => cases h
    | string s => exact tolerates_string s
    | objectPath p => exact tolerates_string p.text
    | signature s => exact tolerates_signature s
    | _ => exact tolerates_number _ _
  | variant hspelled _ ih => exact (tolerates_typeOf hspelled).bind fun _ => ih
  | @array element vs h ih =>
    exact Tolerates.array (tolerates_elements fun a ha => ⟨(h a ha).ty_eq, ih a ha⟩) _
  | @dict k t es hk ht ihk iht =>
    exact Tolerates.array (tolerates_entries fun e he =>
      ⟨⟨(hk e he).ty_eq, ihk e he⟩, (ht e he).ty_eq, iht e he⟩) 8
  | struct _ ih => exact (tolerates_align 8).bind fun _ => tolerates_values ih

end Write

namespace Writer

/-- A value that a body holds has the signature by which it was read, and what keeps it from being
written into a body of its own is never its type. -/
theorem unboxed_of_toValue {b : Writer} {spelling : String} {v : Value}
    (h : b.toValue spelling = .ok v) :
    v.spelling = spelling ∧ ∀ e, ofValue v spelling = .error e → e.isAboutTypes = false := by
  unfold toValue at h
  cases hparse : Ty.parse spelling with
  | error e =>
    rw [hparse] at h
    cases h
  | ok t =>
    rw [hparse] at h
    dsimp only [Reader.run] at h
    split at h
    · next a r' hread =>
      cases h
      have htyped := Read.yields_typed (Read.yields_variantWithin _) t _ _ _ hread
      have hspelling : v.spelling = spelling := by
        rw [Value.spelling, htyped.ty_eq, Ty.signature_of_parse hparse]
      refine ⟨hspelling, fun e herror => ?_⟩
      rw [ofValue, if_pos hspelling, write] at herror
      split at herror
      · cases herror
      · next e' w' hwrite =>
        cases herror
        exact Write.tolerates_value htyped _ _ _ hwrite
    · cases h

end Writer

namespace Read

open Value

/-- What is read of a type, in any window and at any depth of variants, is of that type all the way
down, and the payload of each variant has the signature that stands before it in the bytes. So a value
that was boxed by a signature has that signature, and it is not refused for its type when it is
unboxed. -/
theorem types_of_read :
    (∀ depth t r v r', r.Inside → typed (variantWithin depth) t r = .ok v r' →
      v.ty = t ∧ v.hasType t = true ∧ WellTyped t v ∧
        ∀ q ∈ v.variantsAt r.order r.pos, Announced r.data q.1 q.2) ∧
    ∀ (b : Writer) spelling v, b.toValue spelling = .ok v →
      v.spelling = spelling ∧ ∀ e, Writer.ofValue v spelling = .error e → e.isAboutTypes = false := by
  refine ⟨fun depth t r v r' hr h => ?_, fun _ _ _ => Writer.unboxed_of_toValue⟩
  have htyped := yields_typed (yields_variantWithin depth) t r v r' h
  obtain ⟨-, hfound⟩ := (typed_decodes (variantWithin_decodes depth) t).found hr h
  exact ⟨htyped.ty_eq, hasType_iff.2 htyped.ty_eq, htyped,
    htyped.announces r.order r hfound.shows⟩

/-- An array of one struct, in which a variant stands in a variant. -/
def nestedVariants : Value :=
  .array (.struct [.basic .byte, .variant]) [.struct [.byte 7, .variant (.variant (.string "hi"))]]

/-- The bytes of that array, behind something else. -/
def nestedVariantsBody : ByteArray :=
  ⟨#[9, 0, 0, 0,  0, 0, 0, 15,  7,  1, 118, 0,  1, 115, 0,  0,  0, 0, 0, 2,  104, 105, 0]⟩

theorem types_of_read_nestedVariants :
    let r : Reader := ⟨.big, nestedVariantsBody, 1, 23⟩
    let t : Ty := .array (.struct [.basic .byte, .variant])
    r.Inside ∧
    (∃ v r', typed (variantWithin 2) t r = .ok v r' ∧ v.same nestedVariants = true ∧
      WellTyped t v ∧ (v.variantsAt .big 1).map Prod.fst = [9, 12] ∧
      ∀ q ∈ v.variantsAt .big 1, Announced nestedVariantsBody q.1 q.2) ∧
    ∃ (b : Writer) (v : Value), b.toValue "av" = .ok v ∧ v.spelling = "av" := by
  intro r t
  have hr : r.Inside := ⟨by decide, by decide⟩
  have hread : succeedsWith
      (fun v => v.same nestedVariants && (v.variantsAt .big 1).map Prod.fst == [9, 12])
      (typed (variantWithin 2) t r) = true := by
    decide +kernel
  have hbox : ((⟨.native, ⟨#[4, 0, 0, 0, 1, 121, 0, 7]⟩⟩ : Writer).toValue "av").isOk = true := by
    decide +kernel
  refine ⟨hr, ?_, ?_⟩
  · obtain ⟨v, r', hrun, htest⟩ := succeedsWith_iff.1 hread
    obtain ⟨hsame, hpositions⟩ := Bool.and_eq_true_iff.1 htest
    obtain ⟨-, -, htyped, hannounced⟩ := types_of_read.1 2 t r v r' hr hrun
    exact ⟨v, r', hrun, hsame, htyped, beq_iff_eq.1 hpositions, hannounced⟩
  · cases hrun : (⟨.native, ⟨#[4, 0, 0, 0, 1, 121, 0, 7]⟩⟩ : Writer).toValue "av" with
    | ok v => exact ⟨_, v, hrun, (types_of_read.2 _ _ v hrun).1⟩
    | error e =>
      rw [hrun] at hbox
      cases hbox

end Read

end DBus
