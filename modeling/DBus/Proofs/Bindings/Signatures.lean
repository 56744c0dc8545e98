import DBus.Proofs.Bindings.Code
import DBus.Proofs.Bindings.Generated
import DBus.Proofs.Bindings.Resolve

/-!
# Signatures in generated code

Which signatures stand in the code of an interface. They are the signatures of its lists of
arguments, each put together from those of the arguments, and the signatures of its properties. Both
the proxy and the handler have the signature of every list of arguments that is not empty.
-/

namespace DBus.Bindings

open Code

/-- The signature that goes with some arguments, unless there are none. -/
def sentSignature (args : List ResolvedArgument) : List (List Ty) :=
  if args.isEmpty then [] else [typesOf args]

theorem mem_sentSignature {args : List ResolvedArgument} {ts : List Ty} :
    ts ∈ sentSignature args ↔ args ≠ [] ∧ ts = typesOf args := by
  cases args <;> simp [sentSignature]

/-- Whether types are those of a list of arguments of an interface, or the type of one of its
properties. -/
def ResolvedInterface.Has (i : ResolvedInterface) (ts : List Ty) : Prop :=
  (∃ args ∈ i.argumentLists, ts = typesOf args) ∨ ∃ p ∈ i.properties, ts = [p.type]

section Members

variable {i : ResolvedInterface}

theorem mem_resolved_argumentLists {args : List ResolvedArgument} :
    args ∈ i.argumentLists ↔
      (∃ m ∈ i.methods, args = m.inputs ∨ args = m.outputs) ∨
        ∃ s ∈ i.signals, args = s.arguments := by
  simp [ResolvedInterface.argumentLists, eq_comm]

theorem has_inputs {m : ResolvedMethod} (h : m ∈ i.methods) : i.Has (typesOf m.inputs) :=
  .inl ⟨_, mem_resolved_argumentLists.2 (.inl ⟨m, h, .inl rfl⟩), rfl⟩

theorem has_outputs {m : ResolvedMethod} (h : m ∈ i.methods) : i.Has (typesOf m.outputs) :=
  .inl ⟨_, mem_resolved_argumentLists.2 (.inl ⟨m, h, .inr rfl⟩), rfl⟩

theorem has_arguments {s : ResolvedSignal} (h : s ∈ i.signals) : i.Has (typesOf s.arguments) :=
  .inl ⟨_, mem_resolved_argumentLists.2 (.inr ⟨s, h, rfl⟩), rfl⟩

end Members

@[simp] theorem signatures_params (f : Ty → String) (args : List ResolvedArgument) :
    signatures (Arguments.params f args) = [] :=
  signatures_commaSeparated (by simp)

@[simp] theorem signatures_intoMessage (rt message : String) (args : List ResolvedArgument) :
    signatures (Arguments.intoMessage rt message args).result = sentSignature args := by
  unfold Arguments.intoMessage sentSignature
  split
  · rfl
  · simp [Arguments.writeLocals]

@[simp] theorem signatures_fromMessage (message : String) (args : List ResolvedArgument) :
    signatures (Arguments.fromMessage message args).result = [typesOf args] := by
  unfold Arguments.fromMessage
  split
  · rfl
  · have : signatures (Arguments.tuple args) = [] := by
      unfold Arguments.tuple
      split
      · rfl
      · rfl
      · simp [signatures_commaSeparated]
    simp [Arguments.readLocals, this]

/-! ### Proxies -/

theorem signatures_method (rt : String) (m : ResolvedMethod) :
    signatures (Proxy.method rt m).result.functions =
      sentSignature m.inputs ++ [typesOf m.outputs] := by
  simp [Proxy.method]

theorem signatures_signal (rt : String) (s : ResolvedSignal) :
    signatures (Proxy.signal rt s).result.functions = []
      ∧ signatures (Proxy.signal rt s).result.beside = [typesOf s.arguments] := by
  constructor <;> simp [Proxy.signal, Proxy.watch]

theorem signatures_property {rt : String} {p : ResolvedProperty} {ts : List Ty}
    (h : ts ∈ signatures (Proxy.property rt p).result.functions) : ts = [p.type] := by
  rw [Proxy.result_property, signatures_append, List.mem_append] at h
  obtain h | h := h
  · cases hget : p.get with
    | none => simp [hget] at h
    | some get => simpa [hget, Proxy.getter] using h
  · cases hset : p.set with
    | none => simp [hset] at h
    | some set => simpa [hset, Proxy.setter] using h

@[simp] theorem signatures_propertiesCall (rt member spelling : String) :
    signatures (Proxy.propertiesCall rt member spelling) = [] := rfl

@[simp] theorem signatures_writeOne (write expression : String) :
    signatures (Proxy.writeOne write expression) = [] := rfl

theorem signatures_anyProperty (rt : String) :
    signatures (Proxy.anyProperty rt).result.functions = [] := by
  simp [Proxy.anyProperty, Proxy.anyGetter, Proxy.anySetter]

theorem signatures_allProperties (rt : String) (i : ResolvedInterface) :
    signatures (Proxy.allProperties rt i).result.functions = []
      ∧ signatures (Proxy.allProperties rt i).result.beside = [] := by
  constructor <;>
    simp [Proxy.allProperties, Proxy.allGetter, Proxy.watchChanges, Proxy.decodeChanges]

@[simp] theorem signatures_opening (rt interface : String) :
    signatures (Proxy.opening rt interface) = [] := rfl

theorem mem_signatures_proxy {rt : String} {i : ResolvedInterface} {ts : List Ty} :
    ts ∈ signatures (Proxy.code rt i).result ↔ ∃ part ∈ (Proxy.sections rt i).result,
      ts ∈ signatures part.functions ∨ ts ∈ signatures part.beside := by
  have : signatures (Proxy.code rt i).result =
      (Proxy.sections rt i).result.flatMap (fun part => signatures part.functions)
        ++ (Proxy.sections rt i).result.flatMap (fun part => signatures part.beside) := by
    simp [Proxy.code]
  rw [this]
  simp only [List.mem_append, List.mem_flatMap]
  grind

/-- A proxy has no signatures but those of its members. -/
theorem has_of_mem_proxy {rt : String} {i : ResolvedInterface} {ts : List Ty}
    (h : ts ∈ signatures (Proxy.code rt i).result) : i.Has ts := by
  obtain ⟨part, hpart, h⟩ := mem_signatures_proxy.1 h
  rcases Proxy.mem_sections.1 hpart with ⟨m, hm, rfl⟩ | ⟨s, hs, rfl⟩ | ⟨-, rfl | ⟨p, hp, rfl⟩ | rfl⟩
  · have hbeside : signatures (Proxy.method rt m).result.beside = [] := by simp [Proxy.method]
    rw [signatures_method, hbeside, List.mem_append, mem_sentSignature, List.mem_singleton] at h
    obtain (⟨-, rfl⟩ | rfl) | h := h
    · exact has_inputs hm
    · exact has_outputs hm
    · cases h
  · rw [(signatures_signal rt s).1, (signatures_signal rt s).2, List.mem_singleton] at h
    obtain h | rfl := h
    · cases h
    · exact has_arguments hs
  · rw [signatures_anyProperty] at h
    obtain h | h := h <;> cases h
  · obtain h | h := h
    · exact .inr ⟨p, hp, signatures_property h⟩
    · simp [Proxy.result_property] at h
  · rw [(signatures_allProperties rt i).1, (signatures_allProperties rt i).2] at h
    obtain h | h := h <;> cases h

/-- A proxy has the signatures of all lists of arguments that are not empty. -/
theorem typesOf_mem_proxy {rt : String} {i : ResolvedInterface} {args : List ResolvedArgument}
    (h : args ∈ i.argumentLists) (hne : args ≠ []) :
    typesOf args ∈ signatures (Proxy.code rt i).result := by
  rw [mem_signatures_proxy]
  obtain ⟨m, hm, h⟩ | ⟨s, hs, rfl⟩ := mem_resolved_argumentLists.1 h
  · refine ⟨_, Proxy.mem_sections.2 (.inl ⟨m, hm, rfl⟩), .inl ?_⟩
    rw [signatures_method, List.mem_append, mem_sentSignature, List.mem_singleton]
    obtain rfl | rfl := h
    · exact .inl ⟨hne, rfl⟩
    · exact .inr rfl
  · refine ⟨_, Proxy.mem_sections.2 (.inr (.inl ⟨s, hs, rfl⟩)), .inr ?_⟩
    rw [(signatures_signal rt s).2, List.mem_singleton]

/-! ### Properties -/

theorem mem_signatures_fromBody {arms : List Code} {ts : List Ty}
    (h : ts ∈ signatures (PropertiesStruct.fromBody arms)) : ∃ arm ∈ arms, ts ∈ signatures arm := by
  unfold PropertiesStruct.fromBody at h
  split at h
  · cases h
  · simpa [← List.flatMap_id'] using h

theorem mem_signatures_toBody {statements : List Code} {ts : List Ty}
    (h : ts ∈ signatures (PropertiesStruct.toBody statements)) :
    ∃ statement ∈ statements, ts ∈ signatures statement := by
  unfold PropertiesStruct.toBody at h
  split at h
  · cases h
  · simpa [← List.flatMap_id'] using h

theorem signatures_propertiesStruct {rt : String} {i : ResolvedInterface} {ts : List Ty}
    (h : ts ∈ signatures (PropertiesStruct.code rt i).result) :
    ∃ p ∈ i.properties, ts = [p.type] := by
  have hfield : ∀ p, signatures (PropertiesStruct.field rt p) = [] := fun _ => rfl
  have hbody : (ts ∈ signatures (PropertiesStruct.fromBody ((PropertiesStruct.readable i).map
        fun p => PropertiesStruct.fromArm rt p (routineName .read p.type))))
      ∨ ts ∈ signatures (PropertiesStruct.toBody ((PropertiesStruct.readable i).map
        fun p => PropertiesStruct.toStatement rt p (routineName .write p.type))) := by
    simpa [PropertiesStruct.code, PropertiesStruct.conversions, hfield, Function.comp_def] using h
  have hmem : ∃ p ∈ PropertiesStruct.readable i, ts = [p.type] := by
    obtain h | h := hbody
    · obtain ⟨arm, harm, h⟩ := mem_signatures_fromBody h
      obtain ⟨p, hp, rfl⟩ := List.mem_map.1 harm
      exact ⟨p, hp, by simpa [PropertiesStruct.fromArm] using h⟩
    · obtain ⟨statement, hstatement, h⟩ := mem_signatures_toBody h
      obtain ⟨p, hp, rfl⟩ := List.mem_map.1 hstatement
      exact ⟨p, hp, by simpa [PropertiesStruct.toStatement] using h⟩
  obtain ⟨p, hp, rfl⟩ := hmem
  exact ⟨p, (List.mem_filter.1 hp).1, rfl⟩

/-! ### Handlers -/

theorem signatures_trait (rt : String) (i : ResolvedInterface) :
    signatures (Handler.traitCode rt i) = [] := by
  have hm : ∀ m, signatures (Handler.traitMethod rt m) = [] := fun m => by
    simp [Handler.traitMethod]
  have hp : ∀ p, signatures (Handler.traitOnSet rt p) = [] := fun p => by
    unfold Handler.traitOnSet
    split <;> rfl
  simp [Handler.traitCode, hm, hp]

theorem signatures_readInputs (rt : String) (inputs : List ResolvedArgument) :
    signatures (Handler.readInputs rt inputs).result = [typesOf inputs] := by
  unfold Handler.readInputs
  split
  · rfl
  · simp [Arguments.readLocals]

theorem signatures_writeFields (args : List ResolvedArgument) (n : Nat) :
    signatures (Handler.writeFields n args).result = [] := by
  induction args generalizing n with
  | nil => rfl
  | cons a args ih =>
    simp [Handler.writeFields, Handler.writeOutput, ih]

theorem signatures_replyArm (rt : String) (outputs : List ResolvedArgument) :
    signatures (Handler.replyArm rt outputs).result = sentSignature outputs := by
  have hw : signatures (Handler.writeOutputs outputs).result = [] := by
    unfold Handler.writeOutputs
    split
    · rfl
    · exact signatures_writeFields _ _
  unfold Handler.replyArm sentSignature
  split
  · rfl
  · simp [hw]

theorem signatures_dispatchArm (rt : String) (m : ResolvedMethod) :
    signatures (Handler.dispatchArm rt m).result = typesOf m.inputs :: sentSignature m.outputs := by
  have hargs : signatures (Code.commaSeparated (m.inputs.map fun a => [.use a.ident])) = [] :=
    signatures_commaSeparated (by simp)
  simp [Handler.dispatchArm, signatures_readInputs, signatures_replyArm, hargs]

theorem signatures_dispatch (rt : String) (i : ResolvedInterface) :
    signatures (Handler.dispatch rt i).result =
      i.methods.flatMap fun m => typesOf m.inputs :: sentSignature m.outputs := by
  unfold Handler.dispatch
  split
  · next h => simp_all [signatures, Piece.signatures, brace]
  · simp [signatures_dispatchArm]

theorem signatures_getArm {rt : String} {p : ResolvedProperty} {ts : List Ty}
    (h : ts ∈ signatures (Handler.getArm rt p).result) : ts = [p.type] := by
  unfold Handler.getArm at h
  split at h
  · simpa using h
  · cases h

theorem signatures_setArm {rt : String} {p : ResolvedProperty} {ts : List Ty}
    (h : ts ∈ signatures (Handler.setArm rt p).result) : ts = [p.type] := by
  unfold Handler.setArm at h
  split at h
  · have hstore : signatures (if p.access.isReadable then
        [.fixed "self . properties .", .use p.field, .fixed "= Some (value) ;"] else []) = [] := by
      split <;> rfl
    simpa [hstore] using h
  · cases h

theorem signatures_propertyFunctions {rt : String} {i : ResolvedInterface} {ts : List Ty}
    (h : ts ∈ signatures (Handler.propertyFunctions rt i).result) :
    ∃ p ∈ i.properties, ts = [p.type] := by
  have harm : (∃ p ∈ i.properties, ts ∈ signatures (Handler.getArm rt p).result)
      ∨ ∃ p ∈ i.properties, ts ∈ signatures (Handler.setArm rt p).result := by
    simpa [Handler.propertyFunctions, Handler.propertyArms, List.flatMap_map] using h
  obtain ⟨p, hp, h⟩ | ⟨p, hp, h⟩ := harm
  · exact ⟨p, hp, signatures_getArm h⟩
  · exact ⟨p, hp, signatures_setArm h⟩

theorem signatures_struct (rt : String) (i : ResolvedInterface) :
    signatures (Handler.structCode rt i).result =
      signatures (Handler.dispatch rt i).result
        ++ signatures (Handler.propertyFunctions rt i).result := by
  cases hproperties : i.properties.isEmpty <;> simp [Handler.structCode, hproperties]

theorem signatures_emitter (rt : String) (i : ResolvedInterface) :
    signatures (Handler.emitterCode rt i).result =
      i.signals.flatMap fun s => sentSignature s.arguments := by
  have hs : ∀ s, signatures (Handler.emit rt s).result = sentSignature s.arguments := fun s => by
    simp [Handler.emit]
  have hc : signatures (Handler.emitChanges rt i) = [] := by
    unfold Handler.emitChanges
    split <;> rfl
  simp [Handler.emitterCode, hs, hc]

theorem mem_signatures_handler {rt : String} {i : ResolvedInterface} {ts : List Ty} :
    ts ∈ signatures (Handler.code rt i).result ↔
      (∃ m ∈ i.methods, ts = typesOf m.inputs ∨ ts ∈ sentSignature m.outputs) ∨
        ts ∈ signatures (Handler.propertyFunctions rt i).result ∨
          ∃ s ∈ i.signals, ts ∈ sentSignature s.arguments := by
  simp [Handler.code, signatures_trait, signatures_struct, signatures_dispatch, signatures_emitter]

/-- A handler has no signatures but those of its members. -/
theorem has_of_mem_handler {rt : String} {i : ResolvedInterface} {ts : List Ty}
    (h : ts ∈ signatures (Handler.code rt i).result) : i.Has ts := by
  obtain ⟨m, hm, rfl | h⟩ | h | ⟨s, hs, h⟩ := mem_signatures_handler.1 h
  · exact has_inputs hm
  · obtain ⟨-, rfl⟩ := mem_sentSignature.1 h
    exact has_outputs hm
  · exact .inr (signatures_propertyFunctions h)
  · obtain ⟨-, rfl⟩ := mem_sentSignature.1 h
    exact has_arguments hs

/-- A handler has the signatures of all lists of arguments that are not empty. -/
theorem typesOf_mem_handler {rt : String} {i : ResolvedInterface} {args : List ResolvedArgument}
    (h : args ∈ i.argumentLists) (hne : args ≠ []) :
    typesOf args ∈ signatures (Handler.code rt i).result := by
  rw [mem_signatures_handler]
  obtain ⟨m, hm, rfl | rfl⟩ | ⟨s, hs, rfl⟩ := mem_resolved_argumentLists.1 h
  · exact .inl ⟨m, hm, .inl rfl⟩
  · exact .inl ⟨m, hm, .inr (mem_sentSignature.2 ⟨hne, rfl⟩)⟩
  · exact .inr (.inr ⟨s, hs, mem_sentSignature.2 ⟨hne, rfl⟩⟩)

/-! ### Units -/

theorem has_of_mem_unitsOf {rt : String} {i : ResolvedInterface} {mode : Mode} {u : CodeUnit}
    {ts : List Ty} (hu : u ∈ Generate.unitsOf rt i mode) (h : ts ∈ signatures u.code) :
    i.Has ts := by
  have hprop : ∀ {ts}, ts ∈ signatures (Generate.propertiesCode rt i).result → i.Has ts := by
    intro ts h
    unfold Generate.propertiesCode at h
    split at h
    · cases h
    · exact .inr (signatures_propertiesStruct h)
  rw [Generate.unitsOf_eq_append, List.mem_append] at hu
  obtain hu | hu := hu
  · split at hu
    · obtain rfl := List.mem_singleton.1 hu
      rw [signatures_append, List.mem_append] at h
      exact h.elim hprop has_of_mem_proxy
    · cases hu
  · split at hu
    · obtain rfl := List.mem_singleton.1 hu
      rw [signatures_append, List.mem_append] at h
      obtain h | h := h
      · split at h
        · cases h
        · exact hprop h
      · exact has_of_mem_handler h
    · cases hu

theorem typesOf_mem_unitsOf (rt : String) {i : ResolvedInterface} {mode : Mode}
    {args : List ResolvedArgument} (hm : mode.meets .proxy ∨ mode.meets .handler)
    (h : args ∈ i.argumentLists) (hne : args ≠ []) :
    ∃ u ∈ Generate.unitsOf rt i mode, typesOf args ∈ signatures u.code := by
  obtain hm | hm := hm
  · refine ⟨⟨i.typeName ++ "Proxy", .proxy,
      (Generate.propertiesCode rt i).result ++ (Proxy.code rt i).result⟩,
      by simp [Generate.unitsOf_eq_append, hm], ?_⟩
    rw [signatures_append]
    exact List.mem_append_right _ (typesOf_mem_proxy h hne)
  · refine ⟨⟨i.typeName ++ "Handler", .handler, (if mode.meets .proxy then []
      else (Generate.propertiesCode rt i).result) ++ (Handler.code rt i).result⟩,
      by simp [Generate.unitsOf_eq_append, hm], ?_⟩
    rw [signatures_append]
    exact List.mem_append_right _ (typesOf_mem_handler h hne)

end DBus.Bindings
