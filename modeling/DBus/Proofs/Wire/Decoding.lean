import DBus.Proofs.Wire.Loading

/-!
# Values that were read

A value that was read has the type that was asked for, the types inside it have signatures, and none
of its texts and arrays is too long where it stood. Only zeros in its texts could keep it from being
written. And it was read from its template alone: the bytes that mean something stood in the body as
the template has them, and the rest made no difference.
-/

namespace DBus

namespace Value

open Template

mutual

/-- The texts in a value, apart from paths and signatures. -/
def strings : Value → List String
  | .string s => [s]
  | .variant payload => strings payload
  | .array _ vs => allStrings vs
  | .dict _ _ es => entryStrings es
  | .struct fields => allStrings fields
  | _ => []

/-- The texts in some values. -/
def allStrings : List Value → List String
  | [] => []
  | v :: vs => strings v ++ allStrings vs

/-- The texts in some entries. -/
def entryStrings : List (Value × Value) → List String
  | [] => []
  | (a, b) :: es => strings a ++ strings b ++ entryStrings es

end

/-- Texts that hold no zeros. -/
def NulFree (ss : List String) : Prop :=
  ∀ s ∈ ss, 0 ∉ Bytes.utf8 s

theorem nulFree_append {ss ts : List String} : NulFree (ss ++ ts) ↔ NulFree ss ∧ NulFree ts :=
  List.forall_mem_append

mutual

/-- The texts of a value that can be written hold no zeros. -/
theorem nulFree_of_storable : ∀ {v : Value}, v.Storable → NulFree v.strings
  | .byte _, _ | .boolean _, _ | .int16 _, _ | .uint16 _, _ | .int32 _, _ | .uint32 _, _
  | .int64 _, _ | .uint64 _, _ | .double _, _ | .objectPath _, _ | .signature _, _
  | .unixFd _, _ => nofun
  | .string _, h => List.forall_mem_singleton.2 h
  | .variant payload, h => nulFree_of_storable (v := payload) h.2
  | .array _ _, h => nulFree_of_elements h
  | .dict _ _ _, h => nulFree_of_entries h
  | .struct _, h => nulFree_of_fields h

theorem nulFree_of_fields : ∀ {vs : List Value}, FieldsStorable vs → NulFree (allStrings vs)
  | [], _ => nofun
  | _ :: _, h => nulFree_append.2 ⟨nulFree_of_storable h.1, nulFree_of_fields h.2⟩

theorem nulFree_of_elements {element : Ty} : ∀ {vs : List Value}, ElementsStorable element vs →
    NulFree (allStrings vs)
  | [], _ => nofun
  | _ :: _, h => nulFree_append.2 ⟨nulFree_of_storable h.2.1, nulFree_of_elements h.2.2⟩

theorem nulFree_of_entries {k v : Ty} : ∀ {es : List (Value × Value)}, EntriesStorable k v es →
    NulFree (entryStrings es)
  | [], _ => nofun
  | (_, _) :: _, h => by
    have hkey := nulFree_of_storable h.2.1
    have hvalue := nulFree_of_storable h.2.2.1
    have hrest := nulFree_of_entries h.2.2.2
    exact nulFree_append.2 ⟨nulFree_append.2 ⟨hkey, hvalue⟩, hrest⟩

end

theorem size_template (v : Value) (order : ByteOrder) (pos : Nat) :
    v.template.size order pos = v.layout.size order pos := by
  rw [← zeroed_template, size_zeroed]

/-! ### Templates of values with parts -/

theorem template_variant (payload : Value) :
    (Value.variant payload).template
      = padding 1 ++ Template.text 1 payload.spelling ++ payload.template := by
  rw [append_assoc]
  rfl

theorem template_array (element : Ty) (vs : List Value) :
    (Value.array element vs).template
      = padding 4 ++ Template.array element.alignment (templates vs) := by
  rw [← Ty.wireAlignment_eq]
  rfl

theorem template_dict (k v : Ty) (es : List (Value × Value)) :
    (Value.dict k v es).template = padding 4 ++ Template.array 8 (entryTemplates es) := by
  rw [template, contents, Ty.wireAlignment_eq, Ty.wireAlignment_eq]
  rfl

theorem template_struct (fields : List Value) :
    (Value.struct fields).template = padding 8 ++ templates fields := by
  rw [template, contents, Ty.wireAlignment_eq]
  rfl

/-- The signature of a variant takes the same room in both descriptions. -/
theorem size_padded_text (width : Nat) (s : String) (order : ByteOrder) (pos : Nat) :
    (padding width ++ Template.text width s).size order pos
      = (Layout.text width s).size order pos := by
  rw [← size_zeroed, zeroed_padded_text]

/-! ### Values at a position -/

/-- A value of a type that could stand at a position: only zeros in its texts can keep it from being
written. -/
structure Loaded (t : Ty) (order : ByteOrder) (pos : Nat) (v : Value) : Prop where
  hasType : v.hasType t = true
  storable : NulFree v.strings → v.Storable
  fits : v.Fits order pos

/-- Values of some types that could stand at a position, one behind the other. -/
structure LoadedAll (ts : List Ty) (order : ByteOrder) (pos : Nat) (vs : List Value) : Prop where
  haveTypes : haveTypes vs ts = true
  storable : NulFree (allStrings vs) → FieldsStorable vs
  fit : AllFit order pos vs

/-- The key and the value of an entry of a dict, if the entry could stand at a position. -/
structure LoadedEntry (k v : Ty) (order : ByteOrder) (pos : Nat) (e : Value × Value) : Prop where
  key : e.1.Loaded k order (pos + (padding 8).size order pos)
  value : e.2.Loaded v order (pos + (padding 8 ++ e.1.template).size order pos)

/-- An entry of a dict: padding, the key, and the value. -/
def entryTemplate (e : Value × Value) : Template :=
  padding 8 ++ e.1.template ++ e.2.template

theorem entryTemplates_cons (a b : Value) (es : List (Value × Value)) :
    entryTemplates ((a, b) :: es) = entryTemplate (a, b) ++ entryTemplates es := by
  rw [entryTemplates, Ty.wireAlignment_eq]
  rfl

theorem size_key (a : Value) (order : ByteOrder) (pos : Nat) :
    (padding 8 ++ a.template).size order pos = (Layout.padding 8 ++ a.layout).size order pos := by
  rw [← size_zeroed, zeroed_append, zeroed_padding, zeroed_template]

theorem size_entryTemplate (a b : Value) (order : ByteOrder) (pos : Nat) :
    (entryTemplate (a, b)).size order pos
      = (Layout.padding 8 ++ a.layout ++ b.layout).size order pos := by
  rw [← size_zeroed, entryTemplate, zeroed_append, zeroed_append, zeroed_padding, zeroed_template,
    zeroed_template]

theorem templates_eq_sequence (vs : List Value) : templates vs = Read.sequence template vs := by
  induction vs with
  | nil => rfl
  | cons v vs ih => exact congrArg (v.template ++ ·) ih

theorem entryTemplates_eq_sequence (es : List (Value × Value)) :
    entryTemplates es = Read.sequence entryTemplate es := by
  induction es with
  | nil => rfl
  | cons e es ih => rw [entryTemplates_cons, ih, Read.sequence]

/-- Elements that could stand one behind the other. -/
theorem elements_of_along {element : Ty} {order : ByteOrder} : ∀ {vs : List Value} {pos : Nat},
    Read.Along (Loaded element) template order pos vs →
    (NulFree (allStrings vs) → ElementsStorable element vs) ∧ AllFit order pos vs
  | [], _, _ => ⟨fun _ => trivial, trivial⟩
  | v :: vs, pos, ⟨hv, hvs⟩ => by
    rw [size_template] at hvs
    obtain ⟨hstorable, hfit⟩ := elements_of_along hvs
    refine ⟨fun hnul => ?_, hv.fits, hfit⟩
    obtain ⟨hfirst, hrest⟩ := nulFree_append.1 hnul
    exact ⟨hv.hasType, hv.storable hfirst, hstorable hrest⟩

/-- Entries that could stand one behind the other. -/
theorem entries_of_along {k v : Ty} {order : ByteOrder} :
    ∀ {es : List (Value × Value)} {pos : Nat},
    Read.Along (LoadedEntry k v) entryTemplate order pos es →
    (NulFree (entryStrings es) → EntriesStorable k v es) ∧ EntriesFit order pos es
  | [], _, _ => ⟨fun _ => trivial, trivial⟩
  | (a, b) :: es, pos, ⟨⟨ha, hb⟩, hes⟩ => by
    rw [size_padding, ← Layout.size_padding] at ha
    rw [size_key] at hb
    rw [size_entryTemplate] at hes
    obtain ⟨hstorable, hfit⟩ := entries_of_along hes
    refine ⟨fun hnul => ?_, ha.fits, hb.fits, hfit⟩
    obtain ⟨hfirst, hrest⟩ := nulFree_append.1 hnul
    obtain ⟨hkey, hvalue⟩ := nulFree_append.1 hfirst
    exact ⟨⟨ha.hasType, hb.hasType⟩, ha.storable hkey, hb.storable hvalue, hstorable hrest⟩

end Value

namespace Read

open Template

variable {nested : Read Value}

/-- Whether an action reads values of a type, and these from their templates alone. -/
abbrev DecodesValue (x : Read Value) (t : Ty) : Prop :=
  Decodes x (Value.Loaded t) Value.template

/-! ### Basic types -/

/-- A value without parts is read if what it is made of is. -/
theorem leaf_decodes {α : Type} {x : Read α} {f : α → Value} {b : BasicType}
    {P : ByteOrder → Nat → α → Prop} {T : α → Template} (hx : Decodes x P T)
    (hf : ∀ {order pos a}, P order pos a →
      (f a).Loaded (.basic b) order pos ∧ T a = (f a).template) :
    DecodesValue (x >>= fun a => Pure.pure (f a)) (.basic b) := by
  constructor
  intro r v r' hr h
  obtain ⟨a, r₁, hread, ⟨⟩⟩ := bind_apply_eq_ok_iff.1 h
  obtain ⟨ha, hfound⟩ := hx.found hr hread
  obtain ⟨hloaded, htemplate⟩ := hf ha
  rw [htemplate] at hfound
  exact ⟨hloaded, hfound.finish fun _ _ => rfl⟩

/-- A value that is made of a number. -/
theorem scalar_decodes {width : Nat} {f : Nat → Value} {b : BasicType}
    (hloaded : ∀ order pos k, (f k).Loaded (.basic b) order pos)
    (hf : ∀ k, k < 256 ^ width → (f k).template = padding width ++ Template.number width k) :
    DecodesValue (number width >>= fun k => Pure.pure (f k)) (.basic b) :=
  leaf_decodes (number_decodes width) fun hk => ⟨hloaded .., (hf _ hk).symm⟩

theorem boolean_decodes :
    Decodes boolean (fun _ _ _ => True)
      (fun b => padding 4 ++ Template.number 4 (if b then 1 else 0)) := by
  constructor
  intro r b r' hr h
  obtain ⟨n, r₁, hnumber, h⟩ := bind_apply_eq_ok_iff.1 h
  obtain ⟨-, hfound⟩ := (number_decodes 4).found hr hnumber
  match n, h with
  | 0, h =>
    cases h
    exact ⟨trivial, hfound.finish fun _ _ => rfl⟩
  | 1, h =>
    cases h
    exact ⟨trivial, hfound.finish fun _ _ => rfl⟩
  | n + 2, h => cases h

theorem basic_decodes (b : BasicType) : DecodesValue (basic b) (.basic b) := by
  cases b with
  | byte =>
    refine scalar_decodes (f := fun k => .byte (UInt8.ofNat k))
      (fun _ _ _ => ⟨rfl, fun _ => trivial, trivial⟩) fun k hk => ?_
    exact congrArg (padding 1 ++ Template.number 1 ·) (UInt8.toNat_ofNat_of_lt' hk)
  | boolean =>
    exact leaf_decodes (f := Value.boolean) boolean_decodes
      fun _ => ⟨⟨rfl, fun _ => trivial, trivial⟩, rfl⟩
  | int16 =>
    refine scalar_decodes (f := fun k => .int16 (UInt16.ofNat k).toInt16)
      (fun _ _ _ => ⟨rfl, fun _ => trivial, trivial⟩) fun k hk => ?_
    refine congrArg (padding 2 ++ Template.number 2 ·) ?_
    rw [UInt16.toUInt16_toInt16, UInt16.toNat_ofNat_of_lt' hk]
  | uint16 =>
    refine scalar_decodes (f := fun k => .uint16 (UInt16.ofNat k))
      (fun _ _ _ => ⟨rfl, fun _ => trivial, trivial⟩) fun k hk => ?_
    exact congrArg (padding 2 ++ Template.number 2 ·) (UInt16.toNat_ofNat_of_lt' hk)
  | int32 =>
    refine scalar_decodes (f := fun k => .int32 (UInt32.ofNat k).toInt32)
      (fun _ _ _ => ⟨rfl, fun _ => trivial, trivial⟩) fun k hk => ?_
    refine congrArg (padding 4 ++ Template.number 4 ·) ?_
    rw [UInt32.toUInt32_toInt32, UInt32.toNat_ofNat_of_lt' hk]
  | uint32 =>
    refine scalar_decodes (f := fun k => .uint32 (UInt32.ofNat k))
      (fun _ _ _ => ⟨rfl, fun _ => trivial, trivial⟩) fun k hk => ?_
    exact congrArg (padding 4 ++ Template.number 4 ·) (UInt32.toNat_ofNat_of_lt' hk)
  | int64 =>
    refine scalar_decodes (f := fun k => .int64 (UInt64.ofNat k).toInt64)
      (fun _ _ _ => ⟨rfl, fun _ => trivial, trivial⟩) fun k hk => ?_
    refine congrArg (padding 8 ++ Template.number 8 ·) ?_
    rw [UInt64.toUInt64_toInt64, UInt64.toNat_ofNat_of_lt' hk]
  | uint64 =>
    refine scalar_decodes (f := fun k => .uint64 (UInt64.ofNat k))
      (fun _ _ _ => ⟨rfl, fun _ => trivial, trivial⟩) fun k hk => ?_
    exact congrArg (padding 8 ++ Template.number 8 ·) (UInt64.toNat_ofNat_of_lt' hk)
  | double =>
    refine scalar_decodes (f := fun k => .double (UInt64.ofNat k))
      (fun _ _ _ => ⟨rfl, fun _ => trivial, trivial⟩) fun k hk => ?_
    exact congrArg (padding 8 ++ Template.number 8 ·) (UInt64.toNat_ofNat_of_lt' hk)
  | string =>
    exact leaf_decodes (f := Value.string) (text_decodes 4)
      fun h => ⟨⟨rfl, List.forall_mem_singleton.1, h⟩, rfl⟩
  | objectPath =>
    exact leaf_decodes (f := Value.objectPath) objectPath_decodes
      fun h => ⟨⟨rfl, fun _ => trivial, h⟩, rfl⟩
  | signature =>
    exact leaf_decodes (f := Value.signature) signature_decodes
      fun _ => ⟨⟨rfl, fun _ => trivial, trivial⟩, rfl⟩
  | unixFd =>
    refine scalar_decodes (f := fun k => .unixFd (UInt32.ofNat k))
      (fun _ _ _ => ⟨rfl, fun _ => trivial, trivial⟩) fun k hk => ?_
    exact congrArg (padding 4 ++ Template.number 4 ·) (UInt32.toNat_ofNat_of_lt' hk)

/-! ### Arrays, structs and variants -/

/-- An array is read if its elements are. -/
theorem array_decodes {x : Read Value} {element : Ty} (h : DecodesValue x element) :
    DecodesValue (arrayOf element.alignment x >>= fun vs => Pure.pure (.array element vs))
      (.array element) := by
  constructor
  intro r v r' hr hread
  obtain ⟨vs, r₁, hvs, ⟨⟩⟩ := bind_apply_eq_ok_iff.1 hread
  obtain ⟨⟨hle, halong⟩, hfound⟩ := (arrayOf_decodes element.alignment h).found hr hvs
  rw [← Value.templates_eq_sequence] at hle hfound
  obtain ⟨hstorable, hfit⟩ := Value.elements_of_along halong
  rw [← size_zeroed, Value.zeroed_templates] at hle
  rw [Value.template_array]
  exact ⟨⟨decide_eq_true rfl, hstorable, hle, hfit⟩, hfound.finish fun _ _ => rfl⟩

theorem entry_decodes {k v : Ty} (hk : DecodesValue (typed nested k) k)
    (hv : DecodesValue (typed nested v) v) :
    Decodes (entry nested k v) (Value.LoadedEntry k v) Value.entryTemplate := by
  constructor
  intro r e r' hr h
  obtain ⟨_, r₁, halign, h⟩ := bind_apply_eq_ok_iff.1 h
  obtain ⟨a, r₂, ha, h⟩ := bind_apply_eq_ok_iff.1 h
  obtain ⟨b, r₃, hb, ⟨⟩⟩ := bind_apply_eq_ok_iff.1 h
  have hpad := align_found hr halign
  obtain ⟨hkey, hfirst⟩ := hk.found (hpad.inside hr) ha
  obtain ⟨hvalue, hsecond⟩ := hv.found (hfirst.inside (hpad.inside hr)) hb
  rw [Value.entryTemplate, append_assoc]
  refine ⟨⟨?_, ?_⟩, hpad.append (hfirst.append (hsecond.finish fun _ _ => rfl))⟩
  · rwa [hpad.order_eq, hpad.pos_eq] at hkey
  · rw [size_append, ← Nat.add_assoc]
    rwa [hfirst.order_eq, hfirst.pos_eq, hpad.order_eq, hpad.pos_eq] at hvalue

/-- A dict is read if its keys and its values are. -/
theorem dict_decodes {k v : Ty} (hk : DecodesValue (typed nested k) k)
    (hv : DecodesValue (typed nested v) v) :
    DecodesValue (typed nested (.array (.entry k v))) (.array (.entry k v)) := by
  constructor
  intro r d r' hr hread
  obtain ⟨es, r₁, hes, ⟨⟩⟩ := bind_apply_eq_ok_iff.1 hread
  obtain ⟨⟨hle, halong⟩, hfound⟩ := (arrayOf_decodes 8 (entry_decodes hk hv)).found hr hes
  rw [← Value.entryTemplates_eq_sequence] at hle hfound
  obtain ⟨hstorable, hfit⟩ := Value.entries_of_along halong
  rw [← size_zeroed, Value.zeroed_entryTemplates] at hle
  rw [Value.template_dict]
  refine ⟨⟨?_, hstorable, hle, hfit⟩, hfound.finish fun _ _ => rfl⟩
  simp [Value.hasType]

/-- A struct is read if its fields are. -/
theorem struct_decodes {ts : List Ty}
    (h : Decodes (typedAll nested ts) (Value.LoadedAll ts) Value.templates) :
    DecodesValue (typed nested (.struct ts)) (.struct ts) := by
  constructor
  intro r v r' hr hread
  obtain ⟨_, r₁, halign, hread⟩ := bind_apply_eq_ok_iff.1 hread
  obtain ⟨vs, r₂, hvs, ⟨⟩⟩ := bind_apply_eq_ok_iff.1 hread
  have hpad := align_found hr halign
  obtain ⟨⟨hty, hstorable, hfit⟩, hfound⟩ := h.found (hpad.inside hr) hvs
  have hstart : r₁.pos = r.pos + paddingTo 8 r.pos :=
    hpad.pos_eq.trans (congrArg (r.pos + ·) (size_padding ..))
  rw [hpad.order_eq, hstart] at hfit
  rw [Value.template_struct]
  exact ⟨⟨hty, hstorable, hfit⟩, hpad.append (hfound.finish fun _ _ => rfl)⟩

theorem typedAll_nil_decodes :
    Decodes (typedAll nested []) (Value.LoadedAll []) Value.templates := by
  constructor
  intro r vs r' hr h
  cases h
  exact ⟨⟨rfl, fun _ => trivial, trivial⟩, Found.pure hr []⟩

theorem typedAll_cons_decodes {t : Ty} {ts : List Ty} (h : DecodesValue (typed nested t) t)
    (hs : Decodes (typedAll nested ts) (Value.LoadedAll ts) Value.templates) :
    Decodes (typedAll nested (t :: ts)) (Value.LoadedAll (t :: ts)) Value.templates := by
  constructor
  intro r vs r' hr hread
  obtain ⟨v, r₁, hv, hread⟩ := bind_apply_eq_ok_iff.1 hread
  obtain ⟨vs, r₂, hvs, ⟨⟩⟩ := bind_apply_eq_ok_iff.1 hread
  obtain ⟨hloaded, hfirst⟩ := h.found hr hv
  obtain ⟨⟨hty, hstorable, hfit⟩, hrest⟩ := hs.found (hfirst.inside hr) hvs
  have hstart : r₁.pos = r.pos + v.layout.size r.order r.pos :=
    hfirst.pos_eq.trans (congrArg (r.pos + ·) (v.size_template ..))
  rw [hfirst.order_eq, hstart] at hfit
  refine ⟨⟨?_, fun hnul => ?_, hloaded.fits, hfit⟩, hfirst.append (hrest.finish fun _ _ => rfl)⟩
  · rw [Value.haveTypes, hloaded.hasType, hty, Bool.true_and]
  · obtain ⟨hv, hvs⟩ := Value.nulFree_append.1 hnul
    exact ⟨hloaded.storable hv, hstorable hvs⟩

mutual

/-- A value of a type is read from its template alone, if the variants inside it are. -/
theorem typed_decodes (hnested : DecodesValue (nested >>= fun p => Pure.pure (.variant p)) .variant) :
    ∀ t : Ty, DecodesValue (typed nested t) t
  | .basic b => basic_decodes b
  | .variant => hnested
  | .array (.basic b) => array_decodes (typed_decodes hnested (.basic b))
  | .array .variant => array_decodes (typed_decodes hnested .variant)
  | .array (.array t) => array_decodes (typed_decodes hnested (.array t))
  | .array (.struct ts) => array_decodes (typed_decodes hnested (.struct ts))
  | .array (.entry k v) => dict_decodes (typed_decodes hnested k) (typed_decodes hnested v)
  | .struct ts => struct_decodes (typedAll_decodes hnested ts)
  | .entry _ _ => ⟨fun _ h => nomatch h⟩

theorem typedAll_decodes
    (hnested : DecodesValue (nested >>= fun p => Pure.pure (.variant p)) .variant) :
    ∀ ts : List Ty, Decodes (typedAll nested ts) (Value.LoadedAll ts) Value.templates
  | [] => typedAll_nil_decodes
  | t :: ts => typedAll_cons_decodes (typed_decodes hnested t) (typedAll_decodes hnested ts)

end

/-- A type is read from the signature that spells it. -/
theorem typeOf_eq_ok {spelling : String} {t : Ty} {r r' : Reader}
    (h : typeOf spelling r = .ok t r') :
    typeOf spelling = Pure.pure t ∧ t.signature = spelling ∧ r' = r := by
  unfold typeOf at h ⊢
  cases hparse : Ty.parse spelling with
  | error e =>
    rw [hparse] at h
    cases h
  | ok t' =>
    rw [hparse] at h
    cases h
    exact ⟨rfl, Ty.signature_of_parse hparse, rfl⟩

/-- A variant is read from its signature and the template of its payload alone. -/
theorem variantWithin_decodes (depth : Nat) :
    DecodesValue (variantWithin depth >>= fun p => Pure.pure (.variant p)) .variant := by
  induction depth with
  | zero =>
    constructor
    intro r v r' hr h
    obtain ⟨p, r₁, h, -⟩ := bind_apply_eq_ok_iff.1 h
    obtain ⟨g, r₂, -, h⟩ := bind_apply_eq_ok_iff.1 h
    obtain ⟨t, r₃, -, h⟩ := bind_apply_eq_ok_iff.1 h
    cases h
  | succ depth ih =>
    constructor
    intro r v r' hr h
    obtain ⟨p, r₁, h, ⟨⟩⟩ := bind_apply_eq_ok_iff.1 h
    obtain ⟨g, r₂, hsignature, h⟩ := bind_apply_eq_ok_iff.1 h
    obtain ⟨t, r₃, htype, hpayload⟩ := bind_apply_eq_ok_iff.1 h
    obtain ⟨htypeOf, hspelled, rfl⟩ := typeOf_eq_ok htype
    obtain ⟨-, hfirst⟩ := signature_decodes.found hr hsignature
    obtain ⟨hloaded, hrest⟩ := (typed_decodes ih t).found (hfirst.inside hr) hpayload
    have hspelling : p.spelling = g.text := by
      rw [Value.spelling, Value.ty_of_hasType hloaded.hasType, hspelled]
    have hstart : r₃.pos = r.pos + (Layout.text 1 p.spelling).size r.order r.pos := by
      rw [hfirst.pos_eq, hspelling, ← Value.size_padded_text]
      rfl
    have hpair : Found (typeOf g.text >>= fun t => typed (variantWithin depth) t) r₃ p r'
        (p.template.slotsAt r₃.order r₃.pos) := by
      rwa [htypeOf, pure_bind]
    have hfits := hloaded.fits
    rw [hfirst.order_eq, hstart] at hfits
    refine ⟨⟨rfl, fun hnul => ⟨?_, hloaded.storable hnul⟩, hfits⟩, ?_⟩
    · rw [hspelling, Signature.ofString_text]
      rfl
    · rw [Value.template_variant, hspelling]
      exact (hfirst.append hpair).finish fun _ _ => rfl

/-- A value of a type is read from its template alone. -/
theorem value_decodes (t : Ty) : DecodesValue (value t) t :=
  typed_decodes (variantWithin_decodes maxVariantDepth) t

/-- The value inside a variant that was read, as the variant. -/
theorem loaded_of_variant {v : Value} {r r' : Reader} (hr : r.Inside)
    (h : variant r = .ok v r') : (Value.variant v).Loaded .variant r.order r.pos := by
  have hread : (variantWithin maxVariantDepth >>= fun p => Pure.pure (Value.variant p)) r
      = .ok (Value.variant v) r' := (bind_apply_of_ok h).trans rfl
  exact ((variantWithin_decodes maxVariantDepth).found hr hread).1

end Read

end DBus
