import DBus.Proofs.Bindings.Ends

/-!
# Requests and calls

What generates code asks for routines apart from the code that calls them: one request may be for
several calls, and both depend on what an interface has and on what may be done with a property. Yet
the code of an interface calls all routines that are asked for on its behalf, and no others.
-/

namespace DBus.Bindings

open Code (calls)

/-- How a routine that was asked for is called. -/
def callOf (r : Direction × Ty) : Direction × String :=
  (r.1, routineName r.1 r.2)

/-- The routines that are called are those that were asked for. -/
def Answers (called : List (Direction × String)) (asked : List (Direction × Ty)) : Prop :=
  ∀ c, c ∈ called ↔ c ∈ asked.map callOf

namespace Answers

variable {called called' : List (Direction × String)} {asked asked' : List (Direction × Ty)}

theorem of_eq (h : called = asked.map callOf) : Answers called asked := fun _ => h ▸ Iff.rfl

theorem nil : Answers [] [] := of_eq rfl

theorem append (h : Answers called asked) (h' : Answers called' asked') :
    Answers (called ++ called') (asked ++ asked') := by
  intro c
  rw [List.map_append, List.mem_append, List.mem_append, h c, h' c]

theorem flatMap {α : Type} {xs : List α} {f : α → List (Direction × String)}
    {g : α → List (Direction × Ty)} (h : ∀ x ∈ xs, Answers (f x) (g x)) :
    Answers (xs.flatMap f) (xs.flatMap g) := by
  induction xs with
  | nil => exact nil
  | cons x xs ih =>
    obtain ⟨hx, hxs⟩ := List.forall_mem_cons.1 h
    rw [List.flatMap_cons, List.flatMap_cons]
    exact hx.append (ih hxs)

/-- The order of the calls has no part in this. -/
theorem perm (h : Answers called asked) (hperm : called'.Perm called) : Answers called' asked :=
  fun c => hperm.mem_iff.trans (h c)

end Answers

/-! ### Arguments -/

/-- The requests for some arguments, all to be read or all to be written. -/
def requestsFor (d : Direction) (args : List ResolvedArgument) : List (Direction × Ty) :=
  args.map fun a => (d, a.type)

@[simp] theorem map_callOf_requestsFor (d : Direction) (args : List ResolvedArgument) :
    (requestsFor d args).map callOf = routinesFor d args := by
  rw [requestsFor, List.map_map]
  rfl

section Arguments

variable (args : List ResolvedArgument)

@[simp] theorem requests_fromMessage (message : String) :
    (Arguments.fromMessage message args).requests = requestsFor .read args := by
  cases args with
  | nil => rfl
  | cons a args =>
    simp [Arguments.fromMessage, Arguments.readLocals, requestsFor, List.map_eq_flatMap]

@[simp] theorem requests_intoMessage (rt message : String) :
    (Arguments.intoMessage rt message args).requests = requestsFor .write args := by
  cases args with
  | nil => rfl
  | cons a args =>
    simp [Arguments.intoMessage, Arguments.writeLocals, requestsFor, List.map_eq_flatMap]

@[simp] theorem requests_readInputs (rt : String) :
    (Handler.readInputs rt args).requests = requestsFor .read args := by
  cases args with
  | nil => rfl
  | cons a args =>
    simp [Handler.readInputs, Arguments.readLocals, requestsFor, List.map_eq_flatMap]

theorem requests_writeFields (n : Nat) :
    (Handler.writeFields n args).requests = requestsFor .write args := by
  induction args generalizing n with
  | nil => rfl
  | cons a args ih => simp [Handler.writeFields, Handler.writeOutput, requestsFor, ih]

@[simp] theorem requests_replyArm (rt : String) :
    (Handler.replyArm rt args).requests = requestsFor .write args := by
  cases args with
  | nil => rfl
  | cons a args =>
    have houtputs :
        (Handler.writeOutputs (a :: args)).requests = requestsFor .write (a :: args) := by
      unfold Handler.writeOutputs
      split
      · simp_all [Handler.writeOutput, requestsFor]
      · exact requests_writeFields _ 0
    simp [Handler.replyArm, houtputs]

end Arguments

section Interface

variable (rt : String) (i : ResolvedInterface)

/-! ### The struct of properties -/

theorem calls_fromBody (ps : List ResolvedProperty) :
    calls (PropertiesStruct.fromBody
      (ps.map fun p => PropertiesStruct.fromArm rt p (routineName .read p.type))) =
        ps.flatMap fun p => [(.read, routineName .read p.type)] := by
  cases ps with
  | nil => rfl
  | cons p ps => simp [PropertiesStruct.fromBody, PropertiesStruct.fromArm, ← List.flatMap_def]

theorem calls_toBody (ps : List ResolvedProperty) :
    calls (PropertiesStruct.toBody
      (ps.map fun p => PropertiesStruct.toStatement rt p (routineName .write p.type))) =
        ps.flatMap fun p => [(.write, routineName .write p.type)] := by
  cases ps with
  | nil => rfl
  | cons p ps => simp [PropertiesStruct.toBody, PropertiesStruct.toStatement, ← List.flatMap_def]

/-- The routines are asked for property by property, and called in one function each. -/
theorem answers_propertiesCode :
    Answers (calls (Generate.propertiesCode rt i).result)
      (Generate.propertiesCode rt i).requests := by
  unfold Generate.propertiesCode
  split
  · exact .nil
  · have hfield : ∀ p, calls (PropertiesStruct.field rt p) = [] := fun _ => rfl
    have hcalls : calls (PropertiesStruct.code rt i).result =
        (PropertiesStruct.readable i).flatMap (fun p => [(.read, routineName .read p.type)])
          ++ (PropertiesStruct.readable i).flatMap
            fun p => [(.write, routineName .write p.type)] := by
      simp [PropertiesStruct.code, PropertiesStruct.conversions, Function.comp_def, hfield,
        calls_fromBody, calls_toBody]
    have hrequests : (PropertiesStruct.code rt i).requests =
        (PropertiesStruct.readable i).flatMap fun p => [(.read, p.type), (.write, p.type)] := by
      simp [PropertiesStruct.code, PropertiesStruct.conversions]
    rw [hcalls, hrequests]
    exact (Answers.flatMap fun p _ => .of_eq rfl).perm (List.flatMap_append_perm ..)

/-! ### Proxies -/

/-- The routines that a part of a proxy calls. -/
def Proxy.Section.calls (part : Proxy.Section) : List (Direction × String) :=
  Code.calls part.functions ++ Code.calls part.beside

theorem answers_method (m : ResolvedMethod) :
    Answers (Proxy.method rt m).result.calls (Proxy.method rt m).requests := by
  have hbeside : (Proxy.method rt m).result.beside = [] := by simp [Proxy.method]
  refine .of_eq ?_
  rw [Proxy.Section.calls, calls_method, hbeside]
  simp [Proxy.method]

theorem answers_signal (s : ResolvedSignal) :
    Answers (Proxy.signal rt s).result.calls (Proxy.signal rt s).requests := by
  refine .of_eq ?_
  simp [Proxy.Section.calls, Proxy.signal, Proxy.watch]

/-- The writer of texts is asked for once and called four times. -/
theorem answers_anyProperty :
    Answers (Proxy.anyProperty rt).result.calls (Proxy.anyProperty rt).requests := by
  have hcalls : (Proxy.anyProperty rt).result.calls =
      [callOf (.write, .basic .string), callOf (.write, .basic .string), callOf (.read, .variant),
        callOf (.write, .basic .string), callOf (.write, .basic .string),
        callOf (.write, .variant)] := by
    simp [Proxy.Section.calls, Proxy.anyProperty, Proxy.anyGetter, Proxy.anySetter, Proxy.writeOne,
      Proxy.propertiesCall, callOf]
  have hrequests : (Proxy.anyProperty rt).requests =
      [(.write, .basic .string), (.write, .variant), (.read, .variant)] := rfl
  intro c
  rw [hcalls, hrequests]
  simp only [List.map_cons, List.map_nil, List.mem_cons]
  tauto

theorem answers_property (p : ResolvedProperty) :
    Answers (Proxy.property rt p).result.calls (Proxy.property rt p).requests := by
  refine .of_eq ?_
  rw [Proxy.result_property]
  unfold Proxy.property
  cases p.get <;> cases p.set <;>
    simp [Proxy.Section.calls, Proxy.getter, Proxy.setter, callOf]

/-- The reader of the map of values is asked for once and called twice. -/
theorem answers_allProperties :
    Answers (Proxy.allProperties rt i).result.calls (Proxy.allProperties rt i).requests := by
  have hcalls : (Proxy.allProperties rt i).result.calls =
      [callOf (.write, .basic .string), callOf (.read, Proxy.propertyMap),
        callOf (.read, .basic .string), callOf (.read, Proxy.propertyMap),
        callOf (.read, Proxy.nameList)] := by
    simp [Proxy.Section.calls, Proxy.allProperties, Proxy.allGetter, Proxy.watchChanges,
      Proxy.decodeChanges, Proxy.writeOne, Proxy.propertiesCall, callOf]
  have hrequests : (Proxy.allProperties rt i).requests =
      [(.read, .basic .string), (.read, Proxy.propertyMap), (.read, Proxy.nameList),
        (.write, .basic .string)] := rfl
  intro c
  rw [hcalls, hrequests]
  simp only [List.map_cons, List.map_nil, List.mem_cons]
  tauto

theorem answers_sections :
    Answers ((Proxy.sections rt i).result.flatMap (·.calls)) (Proxy.sections rt i).requests := by
  have hmethods : Answers (i.methods.flatMap fun m => (Proxy.method rt m).result.calls)
      (i.methods.flatMap fun m => (Proxy.method rt m).requests) :=
    .flatMap fun m _ => answers_method rt m
  have hsignals : Answers (i.signals.flatMap fun s => (Proxy.signal rt s).result.calls)
      (i.signals.flatMap fun s => (Proxy.signal rt s).requests) :=
    .flatMap fun s _ => answers_signal rt s
  have hproperties : Answers (i.properties.flatMap fun p => (Proxy.property rt p).result.calls)
      (i.properties.flatMap fun p => (Proxy.property rt p).requests) :=
    .flatMap fun p _ => answers_property rt p
  rw [Proxy.result_sections]
  unfold Proxy.sections Proxy.propertySections
  split
  · simpa [List.flatMap_map] using hmethods.append hsignals
  · simpa [List.flatMap_map] using (hmethods.append hsignals).append
      (((answers_anyProperty rt).append hproperties).append (answers_allProperties rt i))

/-- What stands beside a proxy stands behind it, but its routines are asked for along with those of
the functions that it belongs to. -/
theorem answers_proxy : Answers (calls (Proxy.code rt i).result) (Proxy.code rt i).requests := by
  have hopening : calls (Proxy.opening rt i.name) = [] := rfl
  have hcalls : calls (Proxy.code rt i).result =
      (Proxy.sections rt i).result.flatMap (fun part => calls part.functions) ++
        (Proxy.sections rt i).result.flatMap fun part => calls part.beside := by
    simp [Proxy.code, hopening]
  have hrequests : (Proxy.code rt i).requests = (Proxy.sections rt i).requests := by
    simp [Proxy.code]
  rw [hcalls, hrequests]
  exact (answers_sections rt i).perm (List.flatMap_append_perm ..)

/-! ### Handlers -/

theorem answers_dispatch :
    Answers (calls (Handler.dispatch rt i).result) (Handler.dispatch rt i).requests := by
  have harm : ∀ m, Answers (calls (Handler.dispatchArm rt m).result)
      (Handler.dispatchArm rt m).requests := by
    intro m
    refine .of_eq ?_
    rw [calls_dispatchArm]
    simp [Handler.dispatchArm]
  have harms : Answers (i.methods.flatMap fun m => calls (Handler.dispatchArm rt m).result)
      (i.methods.flatMap fun m => (Handler.dispatchArm rt m).requests) :=
    .flatMap fun m _ => harm m
  unfold Handler.dispatch
  split
  · exact .nil
  · simpa using harms

theorem answers_getArm (p : ResolvedProperty) :
    Answers (calls (Handler.getArm rt p).result) (Handler.getArm rt p).requests := by
  refine .of_eq ?_
  unfold Handler.getArm
  split <;> simp [callOf]

theorem answers_setArm (p : ResolvedProperty) :
    Answers (calls (Handler.setArm rt p).result) (Handler.setArm rt p).requests := by
  refine .of_eq ?_
  unfold Handler.setArm
  split
  · cases p.access.isReadable <;> simp [callOf]
  · simp

/-- The arms are made property by property, and stand in one function each. -/
theorem answers_propertyFunctions :
    Answers (calls (Handler.propertyFunctions rt i).result)
      (Handler.propertyFunctions rt i).requests := by
  have hcalls : calls (Handler.propertyFunctions rt i).result =
      i.properties.flatMap (fun p => calls (Handler.getArm rt p).result)
        ++ i.properties.flatMap fun p => calls (Handler.setArm rt p).result := by
    simp [Handler.propertyFunctions, Handler.propertyArms, List.flatMap_map]
  have hrequests : (Handler.propertyFunctions rt i).requests = i.properties.flatMap fun p =>
      (Handler.getArm rt p).requests ++ (Handler.setArm rt p).requests := by
    simp [Handler.propertyFunctions, Handler.propertyArms]
  rw [hcalls, hrequests]
  exact (Answers.flatMap fun p _ => (answers_getArm rt p).append (answers_setArm rt p)).perm
    (List.flatMap_append_perm ..)

theorem answers_struct :
    Answers (calls (Handler.structCode rt i).result) (Handler.structCode rt i).requests := by
  have hcalls : calls (Handler.structCode rt i).result =
      calls (Handler.dispatch rt i).result ++ calls (Handler.propertyFunctions rt i).result := by
    cases hproperties : i.properties.isEmpty <;> simp [Handler.structCode, hproperties]
  have hrequests : (Handler.structCode rt i).requests =
      (Handler.dispatch rt i).requests ++ (Handler.propertyFunctions rt i).requests := by
    simp [Handler.structCode]
  rw [hcalls, hrequests]
  exact (answers_dispatch rt i).append (answers_propertyFunctions rt i)

theorem answers_emitter :
    Answers (calls (Handler.emitterCode rt i).result) (Handler.emitterCode rt i).requests := by
  have hemit : ∀ s, Answers (calls (Handler.emit rt s).result) (Handler.emit rt s).requests :=
    fun s => .of_eq (by simp [Handler.emit])
  have hchanges : calls (Handler.emitChanges rt i) = [] := by
    unfold Handler.emitChanges
    split <;> simp
  have hemits : Answers (i.signals.flatMap fun s => calls (Handler.emit rt s).result)
      (i.signals.flatMap fun s => (Handler.emit rt s).requests) :=
    .flatMap fun s _ => hemit s
  simpa [Handler.emitterCode, hchanges] using hemits

theorem answers_handler :
    Answers (calls (Handler.code rt i).result) (Handler.code rt i).requests := by
  have htrait : calls (Handler.traitCode rt i) = [] := by
    have honSet : ∀ p, calls (Handler.traitOnSet rt p) = [] := by
      intro p
      unfold Handler.traitOnSet
      split <;> simp
    simp [Handler.traitCode, Handler.traitMethod, honSet]
  have hrequests : (Handler.code rt i).requests =
      (Handler.structCode rt i).requests ++ (Handler.emitterCode rt i).requests := by
    simp [Handler.code]
  rw [handler_eq, Code.calls_append, Code.calls_append, htrait, hrequests]
  exact (answers_struct rt i).append (answers_emitter rt i)

end Interface

/-! ### Units -/

/-- The units of an interface call what is asked for on its behalf, if there are any. -/
theorem answers_unitsOf (rt : String) (i : ResolvedInterface) {mode : Mode}
    (h : mode.meets .proxy ∨ mode.meets .handler) :
    Answers ((Generate.unitsOf rt i mode).flatMap fun u => calls u.code)
      (Generate.requestsOf rt i mode) := by
  have hproperties := answers_propertiesCode rt i
  rw [Generate.unitsOf_eq_append, Generate.requestsOf_eq_append]
  cases hp : mode.meets .proxy with
  | true =>
    have hproxy := hproperties.append (answers_proxy rt i)
    cases mode.meets .handler with
    | true => simpa using hproxy.append (answers_handler rt i)
    | false => simpa using hproxy
  | false =>
    have hh : mode.meets .handler := by simpa [hp] using h
    simpa [hh] using hproperties.append (answers_handler rt i)

end DBus.Bindings
