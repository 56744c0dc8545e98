import DBus.Proofs.Bindings.Generated
import DBus.Proofs.Bindings.Naming

/-!
# All identifiers are valid

Besides those that resolving makes, identifiers are made of the names of interfaces and types: for
structs and traits, for the routines, and for the locals inside of them. Whatever documents bindings
are generated from, all identifiers that are made are valid, and so are all that stand in generated
code.
-/

namespace DBus.Bindings

open Code (paren brace bracket doc remark call commaSeparated)

/-! ### Names of types and routines -/

/-- The types of an interface have valid names, also if nothing is left of the name of the interface:
each ending begins with a capital, and with another one than `Self`. -/
theorem typeName_valid (interface : String) {ending : String} (h : ending ∈ endings) :
    (Ident.plain (typeName interface ++ ending)).Valid := by
  have hendings : ∀ e ∈ endings, IsWord e ∧
      e.toList.any fun c => c.isUpper && c != 'S' && c != '_' := by decide
  obtain ⟨hword, hany⟩ := hendings ending h
  obtain ⟨c, hc, hcapital⟩ := List.any_eq_true.1 hany
  simp only [Bool.and_eq_true, bne_iff_ne] at hcapital
  obtain ⟨⟨hupper, hS⟩, hne⟩ := hcapital
  have hmem : c ∈ (typeName interface ++ ending).toList := by simp [hc]
  exact Ident.valid_plain (typeName_append_isWord interface hword)
    (Ident.ne_underscore_of_mem hmem hne) hmem (not_or.2 ⟨Char.not_isLower_of_isUpper hupper, hS⟩)

theorem routineName_append_valid (d : Direction) (t : Ty) {rest : String}
    (hrest : ∀ c ∈ rest.toList, isIdentChar c) : (Ident.plain (routineName d t ++ rest)).Valid := by
  have hverb : IsWord (d.verb ++ "_") := by cases d <;> decide
  have hletter : 'r' ∈ d.verb.toList := by cases d <;> decide
  exact Ident.valid_plain ((hverb.append_right (isIdentChar_mangle t)).append_right hrest)
    (Ident.ne_underscore_of_mem (c := 'r') (by simp [routineName, hletter]) (by decide)) (c := '_')
    (by simp [routineName]) (by decide)

@[simp] theorem routineName_valid (d : Direction) (t : Ty) : (Ident.plain (routineName d t)).Valid := by
  have hnone : ∀ c ∈ "".toList, isIdentChar c := by simp
  have h := routineName_append_valid d t hnone
  rwa [String.append_empty] at h

theorem digit_not_keyword {c : Char} (h : c.isDigit) : ¬(c.isLower ∨ c = 'S') := by
  rintro (hlower | rfl)
  · simp [(caseless_of_isDigit h).2] at hlower
  · exact absurd h (by decide)

theorem fieldLocal_valid (n : Nat) : (Routine.fieldLocal n).Valid := by
  have hword : IsWord ("f" ++ toString n) :=
    IsWord.append_right (by decide) (isIdentChar_toString n)
  obtain ⟨c, hc⟩ : ∃ c, c ∈ (toString n).toList := by
    refine List.exists_mem_of_ne_nil _ ?_
    rw [Nat.toString_eq_repr, Nat.toList_repr]
    exact Nat.toDigits_ne_nil
  have hmem : c ∈ ("f" ++ toString n).toList := by
    rw [String.toList_append]
    exact List.mem_append_right _ hc
  exact Ident.valid_plain hword (Ident.ne_underscore_of_mem (c := 'f') (by simp) (by decide))
    hmem (digit_not_keyword (isDigit_toString n c hc))

/-! ### Code -/

/-- All identifiers in a piece are valid. -/
def Piece.Valid (p : Piece) : Prop :=
  ∀ id ∈ p.idents, id.Valid

/-- All identifiers in code are valid. -/
def Code.Valid (c : Code) : Prop :=
  ∀ id ∈ c.idents, id.Valid

namespace Piece

@[simp] theorem valid_fixed (text : String) : (fixed text).Valid := List.forall_mem_nil _

@[simp] theorem valid_literal (text : String) : (literal text).Valid := List.forall_mem_nil _

@[simp] theorem valid_signature (types : List Ty) : (signature types).Valid := List.forall_mem_nil _

@[simp] theorem valid_define {name : Ident} : (define name).Valid ↔ name.Valid :=
  List.forall_mem_singleton

@[simp] theorem valid_use {name : Ident} : (use name).Valid ↔ name.Valid :=
  List.forall_mem_singleton

@[simp] theorem valid_routine {d : Direction} {name : String} :
    (routine d name).Valid ↔ (Ident.plain name).Valid :=
  List.forall_mem_singleton

@[simp] theorem valid_group {e : Enclosure} {body : Code} : (group e body).Valid ↔ body.Valid :=
  Iff.rfl

end Piece

namespace Code

@[simp] theorem valid_nil : Valid [] := List.forall_mem_nil _

@[simp] theorem valid_cons {p : Piece} {c : Code} : Valid (p :: c) ↔ p.Valid ∧ Valid c :=
  List.forall_mem_append

@[simp] theorem valid_append {c d : Code} : Valid (c ++ d) ↔ Valid c ∧ Valid d := by
  induction c with
  | nil => simp
  | cons p ps ih => simp [ih, and_assoc]

@[simp] theorem valid_flatMap {α : Type} {f : α → Code} {xs : List α} :
    Valid (xs.flatMap f) ↔ ∀ x ∈ xs, Valid (f x) := by
  induction xs with
  | nil => simp
  | cons x xs ih => simp [ih]

@[simp] theorem valid_paren {body : Code} : (paren body).Valid ↔ body.Valid := Iff.rfl

@[simp] theorem valid_bracket {body : Code} : (bracket body).Valid ↔ body.Valid := Iff.rfl

@[simp] theorem valid_brace {body : Code} : (brace body).Valid ↔ body.Valid := Iff.rfl

@[simp] theorem valid_doc (text : String) : (doc text).Valid := by simp [doc]

@[simp] theorem valid_remark (line : String) : (remark line).Valid := by simp [remark]

@[simp] theorem valid_call {d : Direction} {name : String} :
    (call d name).Valid ↔ (Ident.plain name).Valid := by
  simp [call]

theorem valid_commaSeparated : ∀ {cs : List Code}, (∀ c ∈ cs, Valid c) → Valid (commaSeparated cs)
  | [], _ => valid_nil
  | [c], h => h c List.mem_cons_self
  | c :: d :: cs, h => by
    obtain ⟨hc, hcs⟩ := List.forall_mem_cons.1 h
    exact valid_append.2 ⟨hc, valid_cons.2 ⟨Piece.valid_fixed _, valid_commaSeparated hcs⟩⟩

end Code

/-! ### Routines -/

namespace Routine

variable (rt : String)

theorem valid_head (text : String) (inlined : Bool) {name : String}
    (h : (Ident.plain name).Valid) (takes gives : String) :
    (head text inlined name takes gives).Valid := by
  cases inlined <;> simp [head, h]

theorem valid_readFields : ∀ (ts : List Ty) (n : Nat),
    (readFields n (ts.map (routineName .read))).Valid
  | [], _ => Code.valid_nil
  | t :: ts, n => by simp [readFields, fieldLocal_valid, valid_readFields ts]

theorem valid_fieldLocals (n count : Nat) : (fieldLocals n count).Valid := by
  induction count generalizing n with
  | zero => exact Code.valid_nil
  | succ count ih => simp [fieldLocals, fieldLocal_valid, ih]

theorem valid_readElements (element : Ty) :
    (readElements element (routineName .read element)).Valid := by
  unfold readElements
  split
  · split <;> simp [readElements.pushed]
  · simp [readElements.pushed]

theorem valid_writeFields : ∀ (ts : List Ty) (n : Nat),
    (writeFields n (ts.zip (ts.map (routineName .write)))).Valid
  | [], _ => Code.valid_nil
  | t :: ts, n => by simp [writeFields, valid_writeFields ts]

theorem valid_writeElements (element : Ty) :
    (writeElements element (routineName .write element)).Valid := by
  cases element <;> simp [writeElements]

theorem valid_body (d : Direction) (t : Ty) : (body rt d t).Valid := by
  cases d with
  | read =>
    cases t <;> simp [body, basicBody, variantBody, arrayBody, structBody, entryBody, readArray,
      readStruct, readEntry, valid_readFields, valid_fieldLocals, valid_readElements]
  | write =>
    cases t <;> simp [body, basicBody, variantBody, arrayBody, structBody, entryBody, writeArray,
      writeStruct, writeEntry, valid_writeFields, valid_writeElements]

theorem valid_code (d : Direction) (t : Ty) : (code rt d t).Valid := by
  have hopt : (Ident.plain (routineName .write t ++ "_opt")).Valid :=
    routineName_append_valid .write t (by simp [isIdentChar])
  have hname := routineName_valid d t
  cases d with
  | read => simp [code, define, reader, valid_head _ _ hname, valid_body]
  | write =>
    refine Code.valid_append.2 ⟨by simp [valid_head _ _ hname, valid_body], ?_⟩
    split
    · simp [optionalWriter, valid_head _ _ hopt]
    · exact Code.valid_nil

end Routine

/-! ### Interfaces -/

/-- What makes all identifiers in the code for an interface valid: its own are, and the names of its
types and functions come from that of the interface. -/
structure ResolvedInterface.WellNamed (i : ResolvedInterface) : Prop where
  typeName : i.typeName = Bindings.typeName i.name
  snakeName : IsWord i.snakeName
  idents : ∀ id ∈ i.idents, id.Valid

namespace ResolvedInterface

/-- The names of the structs, of the trait and of the function that reads changes of properties. -/
def itemNames (i : ResolvedInterface) : List Ident :=
  [PropertiesStruct.name i, Proxy.name i, Handler.traitName i, Handler.name i,
    Handler.emitterName i, Proxy.changesName i]

namespace WellNamed

variable {i : ResolvedInterface} (h : i.WellNamed)

include h

theorem method {m : ResolvedMethod} (hm : m ∈ i.methods) : ∀ id ∈ m.idents, id.Valid :=
  fun id hid => h.idents id (List.mem_append_left _ (List.mem_flatMap.2 ⟨m, hm, hid⟩))

theorem signal {s : ResolvedSignal} (hs : s ∈ i.signals) : ∀ id ∈ s.idents, id.Valid :=
  fun id hid => h.idents id (List.mem_append_right _
    (List.mem_append_left _ (List.mem_flatMap.2 ⟨s, hs, hid⟩)))

theorem property {p : ResolvedProperty} (hp : p ∈ i.properties) : ∀ id ∈ p.idents, id.Valid :=
  fun id hid => h.idents id (List.mem_append_right _
    (List.mem_append_right _ (List.mem_flatMap.2 ⟨p, hp, hid⟩)))

theorem changesName : (Proxy.changesName i).Valid := by
  have hdecode : IsWord "decode_" := by decide
  exact Ident.valid_plain ((hdecode.append h.snakeName).append (by decide))
    (Ident.ne_underscore_of_mem (c := 'd') (by simp) (by decide)) (c := '_') (by simp) (by decide)

theorem itemNames : ∀ id ∈ i.itemNames, id.Valid := by
  have htype : ∀ e ∈ endings, (Ident.plain (i.typeName ++ e)).Valid := fun e he =>
    h.typeName ▸ typeName_valid i.name he
  simpa [ResolvedInterface.itemNames, Proxy.name, PropertiesStruct.name, Handler.traitName,
    Handler.name, Handler.emitterName, h.changesName, endings] using htype

end WellNamed

end ResolvedInterface

/-! ### Arguments -/

section Arguments

variable (rt : String) {args : List ResolvedArgument} (h : ∀ a ∈ args, a.ident.Valid)

include h

theorem valid_params (f : Ty → String) : (Arguments.params f args).Valid :=
  Code.valid_commaSeparated (List.forall_mem_map.2 fun a ha => by simp [h a ha])

theorem valid_uses : (commaSeparated (args.map fun a => [.use a.ident])).Valid :=
  Code.valid_commaSeparated (List.forall_mem_map.2 fun a ha => by simp [h a ha])

theorem valid_readLocals : (Arguments.readLocals args).result.Valid := by
  simpa [Arguments.readLocals] using h

theorem valid_writeLocals : (Arguments.writeLocals args).result.Valid := by
  simpa [Arguments.writeLocals] using h

theorem valid_tuple : (Arguments.tuple args).Valid := by
  unfold Arguments.tuple
  split
  · simp
  · simpa using h
  · simp [valid_uses h]

theorem valid_fromMessage (message : String) :
    (Arguments.fromMessage message args).result.Valid := by
  unfold Arguments.fromMessage
  split <;> simp [valid_readLocals h, valid_tuple h]

theorem valid_intoMessage (message : String) :
    (Arguments.intoMessage rt message args).result.Valid := by
  unfold Arguments.intoMessage
  split <;> simp [valid_writeLocals h]

end Arguments

section Interface

variable (rt : String) {i : ResolvedInterface} (h : i.WellNamed)

include h

/-! ### Members -/

theorem valid_method {m : ResolvedMethod} (hm : m ∈ i.methods) :
    m.handle.Valid ∧ m.call.Valid ∧ (∀ a ∈ m.inputs, a.ident.Valid) ∧
      ∀ a ∈ m.outputs, a.ident.Valid := by
  simpa [ResolvedMethod.idents, or_imp, forall_and] using h.method hm

theorem valid_signal {s : ResolvedSignal} (hs : s ∈ i.signals) :
    s.decode.Valid ∧ s.watch.Valid ∧ s.emit.Valid ∧ ∀ a ∈ s.arguments, a.ident.Valid := by
  simpa [ResolvedSignal.idents, or_imp, forall_and] using h.signal hs

theorem valid_property {p : ResolvedProperty} (hp : p ∈ i.properties) :
    p.field.Valid ∧ (∀ get, p.get = some get → get.Valid) ∧ (∀ set, p.set = some set → set.Valid) ∧
      ∀ onSet, p.onSet = some onSet → onSet.Valid := by
  simpa [ResolvedProperty.idents, or_imp, forall_and] using h.property hp

/-! ### The struct of properties -/

theorem valid_propertiesName : (PropertiesStruct.name i).Valid :=
  h.itemNames _ (by simp [ResolvedInterface.itemNames])

theorem valid_propertiesCode : (Generate.propertiesCode rt i).result.Valid := by
  have hreadable : ∀ p ∈ PropertiesStruct.readable i, p.field.Valid := fun p hp =>
    (valid_property h (List.mem_filter.1 hp).1).1
  have hfields : ∀ p ∈ PropertiesStruct.readable i, (PropertiesStruct.field rt p).Valid :=
    fun p hp => by simp [PropertiesStruct.field, hreadable p hp]
  have hfromBody : (PropertiesStruct.fromBody ((PropertiesStruct.readable i).map
      fun p => PropertiesStruct.fromArm rt p (routineName .read p.type))).Valid := by
    unfold PropertiesStruct.fromBody
    split
    · simp
    · simpa [← List.flatMap_def, PropertiesStruct.fromArm] using hreadable
  have htoBody : (PropertiesStruct.toBody ((PropertiesStruct.readable i).map
      fun p => PropertiesStruct.toStatement rt p (routineName .write p.type))).Valid := by
    unfold PropertiesStruct.toBody
    split
    · simp
    · simpa [← List.flatMap_def, PropertiesStruct.toStatement] using hreadable
  have hfrom : (Ident.plain "from_variants").Valid := by decide
  have hto : (Ident.plain "to_variants").Valid := by decide
  unfold Generate.propertiesCode
  split
  · exact Code.valid_nil
  · simpa [PropertiesStruct.code, PropertiesStruct.conversions, Function.comp_def,
      valid_propertiesName h, hfromBody, htoBody, hfrom, hto] using hfields

/-! ### Proxies -/

theorem valid_sections {part : Proxy.Section} (hpart : part ∈ (Proxy.sections rt i).result) :
    part.functions.Valid ∧ part.beside.Valid := by
  rcases Proxy.mem_sections.1 hpart with ⟨m, hm, rfl⟩ | ⟨s, hs, rfl⟩ | ⟨-, rfl | ⟨p, hp, rfl⟩ | rfl⟩
  · obtain ⟨-, hcall, hinputs, houtputs⟩ := valid_method h hm
    simp [Proxy.method, hcall, valid_params hinputs, valid_intoMessage rt hinputs,
      valid_fromMessage houtputs]
  · obtain ⟨hdecode, hwatch, -, hargs⟩ := valid_signal h hs
    simp [Proxy.signal, Proxy.watch, hdecode, hwatch, valid_fromMessage hargs]
  · have hget : (Ident.plain "get_property_variant").Valid := by decide
    have hset : (Ident.plain "set_property_variant").Valid := by decide
    simp [Proxy.anyProperty, Proxy.anyGetter, Proxy.anySetter, Proxy.writeOne,
      Proxy.propertiesCall, hget, hset]
  · obtain ⟨-, hget, hset, -⟩ := valid_property h hp
    rw [Proxy.result_property]
    refine ⟨Code.valid_append.2 ⟨?_, ?_⟩, Code.valid_nil⟩
    · cases hp : p.get with
      | none => exact Code.valid_nil
      | some get => simp [Proxy.getter, hget get hp]
    · cases hp : p.set with
      | none => exact Code.valid_nil
      | some set => simp [Proxy.setter, hset set hp]
  · have hall : (Ident.plain "get_all_properties").Valid := by decide
    have hwatch : (Ident.plain "watch_properties_changed").Valid := by decide
    simp [Proxy.allProperties, Proxy.allGetter, Proxy.watchChanges, Proxy.decodeChanges,
      Proxy.writeOne, Proxy.propertiesCall, hall, hwatch, valid_propertiesName h, h.changesName]

theorem valid_proxy : (Proxy.code rt i).result.Valid := by
  have hname : (Proxy.name i).Valid := h.itemNames _ (by simp [ResolvedInterface.itemNames])
  have hfunctions : ∀ part ∈ (Proxy.sections rt i).result, part.functions.Valid := fun part hpart =>
    (valid_sections rt h hpart).1
  have hbeside : ∀ part ∈ (Proxy.sections rt i).result, part.beside.Valid := fun part hpart =>
    (valid_sections rt h hpart).2
  have hopening : (Proxy.opening rt i.name).Valid := by
    have hnew : (Ident.plain "new").Valid := by decide
    have htransport : (Ident.plain "transport").Valid := by decide
    have hpath : (Ident.plain "path").Valid := by decide
    simp [Proxy.opening, hnew, htransport, hpath]
  simpa [Proxy.code, hname, hopening] using ⟨hfunctions, hbeside⟩

/-! ### Handlers -/

theorem valid_traitName : (Handler.traitName i).Valid :=
  h.itemNames _ (by simp [ResolvedInterface.itemNames])

theorem valid_trait : (Handler.traitCode rt i).Valid := by
  have hmethods : ∀ m ∈ i.methods, (Handler.traitMethod rt m).Valid := by
    intro m hm
    obtain ⟨hhandle, -, hinputs, -⟩ := valid_method h hm
    simp [Handler.traitMethod, hhandle, valid_params hinputs]
  have honSet : ∀ p ∈ i.properties, (Handler.traitOnSet rt p).Valid := by
    intro p hp
    unfold Handler.traitOnSet
    split
    · next onSet hset => simp [(valid_property h hp).2.2.2 onSet hset]
    · exact Code.valid_nil
  simpa [Handler.traitCode, valid_traitName h] using ⟨hmethods, honSet⟩

end Interface

section Dispatch

variable (rt : String)

theorem valid_readInputs {inputs : List ResolvedArgument} (h : ∀ a ∈ inputs, a.ident.Valid) :
    (Handler.readInputs rt inputs).result.Valid := by
  unfold Handler.readInputs
  split <;> simp [valid_readLocals h]

theorem valid_writeFields : ∀ (args : List ResolvedArgument) (n : Nat),
    (Handler.writeFields n args).result.Valid
  | [], _ => Code.valid_nil
  | a :: args, n => by simp [Handler.writeFields, Handler.writeOutput, valid_writeFields args]

theorem valid_replyArm (outputs : List ResolvedArgument) :
    (Handler.replyArm rt outputs).result.Valid := by
  have hwrite : (Handler.writeOutputs outputs).result.Valid := by
    unfold Handler.writeOutputs
    split <;> simp [Handler.writeOutput, valid_writeFields]
  unfold Handler.replyArm
  split <;> simp [hwrite]

end Dispatch

section Interface

variable (rt : String) {i : ResolvedInterface} (h : i.WellNamed)

include h

theorem valid_dispatch : (Handler.dispatch rt i).result.Valid := by
  have harms : ∀ m ∈ i.methods, (Handler.dispatchArm rt m).result.Valid := by
    intro m hm
    obtain ⟨hhandle, -, hinputs, -⟩ := valid_method h hm
    simp [Handler.dispatchArm, hhandle, valid_readInputs rt hinputs, valid_uses hinputs,
      valid_replyArm]
  unfold Handler.dispatch
  split
  · simp
  · simpa using harms

theorem valid_propertyFunctions : (Handler.propertyFunctions rt i).result.Valid := by
  have hget : ∀ p ∈ i.properties, (Handler.getArm rt p).result.Valid := by
    intro p hp
    unfold Handler.getArm
    split <;> simp [(valid_property h hp).1]
  have hset : ∀ p ∈ i.properties, (Handler.setArm rt p).result.Valid := by
    intro p hp
    obtain ⟨hfield, -, -, honSet⟩ := valid_property h hp
    unfold Handler.setArm
    split
    · next onSet hsome => cases p.access.isReadable <;> simp [honSet onSet hsome, hfield]
    · simp
  simpa [Handler.propertyFunctions, Handler.propertyArms] using ⟨hget, hset⟩

theorem valid_struct : (Handler.structCode rt i).result.Valid := by
  have hname : (Handler.name i).Valid := h.itemNames _ (by simp [ResolvedInterface.itemNames])
  cases hproperties : i.properties.isEmpty <;>
    simp [Handler.structCode, hproperties, hname, valid_traitName h, valid_propertiesName h,
      valid_dispatch rt h, valid_propertyFunctions rt h]

theorem valid_emitter : (Handler.emitterCode rt i).result.Valid := by
  have hname : (Handler.emitterName i).Valid :=
    h.itemNames _ (by simp [ResolvedInterface.itemNames])
  have hnew : (Ident.plain "new").Valid := by decide
  have hemit : ∀ s ∈ i.signals, (Handler.emit rt s).result.Valid := by
    intro s hs
    obtain ⟨-, -, hemit, hargs⟩ := valid_signal h hs
    simp [Handler.emit, hemit, valid_params hargs, valid_intoMessage rt hargs]
  have hchanges : (Handler.emitChanges rt i).Valid := by
    have hchanged : (Ident.plain "emit_properties_changed").Valid := by decide
    unfold Handler.emitChanges
    split <;> simp [hchanged, valid_propertiesName h]
  simpa [Handler.emitterCode, hname, hnew, hchanges] using hemit

theorem valid_unitsOf {mode : Mode} {u : CodeUnit} (hu : u ∈ Generate.unitsOf rt i mode) :
    u.code.Valid := by
  have hhandler : (Handler.code rt i).result.Valid := by
    simp [Handler.code, valid_trait rt h, valid_struct rt h, valid_emitter rt h]
  rw [Generate.unitsOf_eq_append] at hu
  rcases List.mem_append.1 hu with hu | hu
  · split at hu
    · obtain rfl := List.mem_singleton.1 hu
      simp [valid_propertiesCode rt h, valid_proxy rt h]
    · cases hu
  · split at hu
    · obtain rfl := List.mem_singleton.1 hu
      cases mode.meets .proxy <;> simp [valid_propertiesCode rt h, hhandler]
    · cases hu

end Interface

/-! ### Documents -/

theorem wellNamed_of_resolve {i : Interface} {r : ResolvedInterface} (h : resolve i = .ok r) :
    r.WellNamed where
  typeName := by rw [(resolve_resolves h).typeName, (resolve_resolves h).name]
  snakeName := (resolve_resolves h).snakeName ▸ snakeCase_isWord _
  idents := (idents_of_resolve h).2

section Generated

variable (documents : List (Document × Mode)) (crate : String)

/-- The code of every unit has valid identifiers, and so has the unit as a part of one module. -/
theorem valid_units : ∀ u ∈ (generate documents crate).units, u.code.Valid ∧ u.inModule.Valid := by
  have hroutines : ∀ d, ((requested documents crate).code (runtimePath crate) d).Valid := fun d =>
    Code.valid_flatMap.2 fun t _ => Routine.valid_code (runtimePath crate) d t
  have hreaders : (Ident.plain "readers").Valid := by decide
  have hwriters : (Ident.plain "writers").Valid := by decide
  intro u hu
  rw [units_generate, List.mem_append, List.mem_flatMap] at hu
  rcases hu with ⟨r, hr, hu⟩ | hu
  · obtain ⟨i, hi⟩ := Generate.exists_resolve_of_mem hr
    have hcode := valid_unitsOf _ (wellNamed_of_resolve hi) hu
    have hmodule : u.inModule = u.code := by
      unfold CodeUnit.inModule
      rcases kind_of_mem_unitsOf hu with hkind | hkind <;> rw [hkind]
    exact ⟨hcode, hmodule ▸ hcode⟩
  · simp only [List.mem_cons, List.not_mem_nil, or_false] at hu
    rcases hu with rfl | rfl <;> simp [CodeUnit.inModule, hroutines, hreaders, hwriters]

/-- Whatever documents bindings are generated from, and in whatever modes, all identifiers that are
made are valid: those that resolving makes for each interface, also for one that it refuses; the
names of the items of each interface that it resolves; and all that stand in the code of the units
and in the module made of them. -/
theorem generate_identifiers_valid :
    (∀ m ∈ merge documents,
      (Naming.resolve m.1).result = resolve m.1 ∧ (∀ id ∈ (Naming.resolve m.1).made, id.Valid) ∧
      ∀ r, resolve m.1 = .ok r →
        (Naming.resolve m.1).made = r.idents ∧ ∀ id ∈ r.itemNames, id.Valid) ∧
    (∀ u ∈ (generate documents crate).units, ∀ id ∈ u.code.idents, id.Valid) ∧
    ∀ id ∈ (generate documents crate).module.idents, id.Valid := by
  have hunits := valid_units documents crate
  refine ⟨fun m _ => ⟨Naming.result_resolve m.1, Naming.valid_resolve m.1, fun r hr => ?_⟩,
    fun u hu => (hunits u hu).1, ?_⟩
  · exact ⟨(idents_of_resolve hr).1, (wellNamed_of_resolve hr).itemNames⟩
  · exact Code.valid_flatMap.2 fun u hu => (hunits u hu).2

end Generated

/-- An interface with names that are empty, start with digits, are keywords or have no letters of
ASCII. Its last signature is given. -/
def oddInterface (spelling : String) : Interface where
  name := "1.é"
  methods := [⟨"9", [⟨some "_", "s"⟩, ⟨some "Self", "s"⟩, ⟨some "", "s"⟩], [⟨none, "s"⟩], none⟩]
  signals := [⟨"", [⟨some "3d", "s"⟩], none⟩]
  properties := [⟨"Type", spelling, .readWrite, none⟩]
  doc := none

def oddDocuments (spelling : String) : List (Document × Mode) :=
  [(⟨[oddInterface spelling]⟩, .proxy)]

theorem odd_identifiers_valid :
    (generate (oddDocuments "z") "tokio_dbus").errors.length = 1 ∧
      (Naming.resolve (oddInterface "z")).made.map (·.print) =
        ["_9", "_9", "__", "self_", "arg2", "arg0", "decode__1__", "watch__", "emit__", "_3d",
          "r#type", "get_type", "set_type", "on_set_type"] ∧
      (∀ id ∈ (Naming.resolve (oddInterface "z")).made, id.Valid) ∧
      (⟨true, "type"⟩ : Ident) ∈ (generate (oddDocuments "s") "tokio_dbus").module.idents ∧
      ∀ id ∈ (generate (oddDocuments "s") "tokio_dbus").module.idents, id.Valid := by
  refine ⟨by decide +kernel, by decide +kernel, ?_, by decide +kernel, ?_⟩
  · exact ((generate_identifiers_valid (oddDocuments "z") "tokio_dbus").1
      (oddInterface "z", .proxy) (List.mem_singleton.2 rfl)).2.1
  · exact (generate_identifiers_valid (oddDocuments "s") "tokio_dbus").2.2

end DBus.Bindings
