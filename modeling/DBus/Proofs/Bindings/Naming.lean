import DBus.Proofs.Bindings.Resolve
import DBus.Proofs.Bindings.Words

/-!
# The identifiers that resolving makes

Resolving an interface makes identifiers as it goes, also for an interface that it refuses: all that
come before the first wrong signature. Here it is told again with a record of them. The record takes
nothing away from what resolving gives, it holds just the identifiers of what is resolved if nothing
is wrong, and whatever is wrong, all that it holds are valid.
-/

namespace DBus.Bindings

/-! ### Identifiers of what is resolved -/

/-- The identifiers of a method, in the order in which they are made. -/
def ResolvedMethod.idents (m : ResolvedMethod) : List Ident :=
  [m.handle, m.call] ++ (m.inputs.map (·.ident) ++ m.outputs.map (·.ident))

/-- The identifiers of a signal, in the order in which they are made. -/
def ResolvedSignal.idents (s : ResolvedSignal) : List Ident :=
  [s.decode, s.watch, s.emit] ++ s.arguments.map (·.ident)

/-- The identifiers of a property, in the order in which they are made. -/
def ResolvedProperty.idents (p : ResolvedProperty) : List Ident :=
  p.field :: p.get.toList ++ p.set.toList ++ p.onSet.toList

/-- The identifiers of an interface, in the order in which they are made. -/
def ResolvedInterface.idents (i : ResolvedInterface) : List Ident :=
  i.methods.flatMap (·.idents) ++ (i.signals.flatMap (·.idents) ++ i.properties.flatMap (·.idents))

/-! ### Records -/

/-- What resolving gives, with the identifiers that were made on the way. -/
structure Naming (α : Type) where
  made : List Ident
  result : Except BindingError α

namespace Naming

variable {α β : Type}

instance : Monad Naming where
  pure a := ⟨[], .ok a⟩
  bind x f :=
    match x.result with
    | .ok a => ⟨x.made ++ (f a).made, (f a).result⟩
    | .error e => ⟨x.made, .error e⟩

/-- Makes identifiers. -/
def make (ids : List Ident) : Naming Unit := ⟨ids, .ok ()⟩

/-- Makes none. -/
def of (result : Except BindingError α) : Naming α := ⟨[], result⟩

@[simp] theorem result_pure (a : α) : (pure a : Naming α).result = .ok a := rfl

@[simp] theorem result_make (ids : List Ident) : (make ids).result = .ok () := rfl

@[simp] theorem result_of (r : Except BindingError α) : (of r).result = r := rfl

@[simp] theorem result_bind (x : Naming α) (f : α → Naming β) :
    (x >>= f).result = x.result >>= fun a => (f a).result := by
  simp only [bind, Except.bind]
  split <;> simp [*]

/-- What holds of the record and of what is given, if something is. -/
def Ends (x : Naming α) (Q : List Ident → α → Prop) : Prop :=
  ∀ a, x.result = .ok a → Q x.made a

namespace Ends

variable {Q : List Ident → α → Prop} {R : List Ident → β → Prop}

theorem pure {a : α} (h : Q [] a) : (pure a : Naming α).Ends Q := by
  rintro b ⟨⟩
  exact h

theorem bind {x : Naming α} {f : α → Naming β} (hx : x.Ends Q)
    (hf : ∀ ids a, Q ids a → (f a).Ends fun more b => R (ids ++ more) b) : (x >>= f).Ends R := by
  intro b hb
  rw [result_bind] at hb
  obtain ⟨a, ha, hb⟩ := bind_eq_ok_iff.1 hb
  have hmade : (x >>= f).made = x.made ++ (f a).made := by simp only [Bind.bind, ha]
  rw [hmade]
  exact hf _ _ (hx a ha) b hb

theorem make_bind {ids : List Ident} {f : Unit → Naming β}
    (h : (f ()).Ends fun more b => R (ids ++ more) b) : (make ids >>= f).Ends R :=
  h

theorem of_bind {r : Except BindingError α} {f : α → Naming β} (h : ∀ a, (f a).Ends R) :
    (of r >>= f).Ends R := by
  cases r with
  | ok a => exact h a
  | error e => rintro b ⟨⟩

end Ends

/-- All identifiers that were made are valid. -/
def Valid (x : Naming α) : Prop :=
  ∀ id ∈ x.made, id.Valid

theorem valid_pure (a : α) : (pure a : Naming α).Valid := List.forall_mem_nil _

theorem valid_of (r : Except BindingError α) : (of r).Valid := List.forall_mem_nil _

theorem Valid.bind {x : Naming α} {f : α → Naming β} (hx : x.Valid) (hf : ∀ a, (f a).Valid) :
    (x >>= f).Valid := by
  unfold Valid
  simp only [Bind.bind]
  split
  · next a _ => exact List.forall_mem_append.2 ⟨hx, hf a⟩
  · exact hx

/-! ### With a record -/

/-- `Resolve.arguments` with a record. -/
def arguments (interface member : String) :
    (index : Nat) → Scope → List Argument → Naming (List ResolvedArgument × Scope)
  | _, scope, [] => pure ([], scope)
  | index, scope, a :: rest => do
    let (ident, scope) := scope.argument a.name index
    make [ident]
    let type ← of (Resolve.typeOf interface member a.signature)
    let (rest, scope) ← arguments interface member (index + 1) scope rest
    return (⟨ident, type⟩ :: rest, scope)

/-- `Resolve.methods` with a record. -/
def methods (interface : String) :
    Resolve.Scopes → List Method → Naming (List ResolvedMethod × Resolve.Scopes)
  | s, [] => pure ([], s)
  | s, m :: rest => do
    let snake := snakeCase m.name
    let (handle, handler) := s.handler.ident snake
    let (call, proxy) := s.proxy.ident snake
    make [handle, call]
    let (inputs, scope) ← arguments interface m.name 0 .ofArguments m.inputs
    let (outputs, _) ← arguments interface m.name 0 scope m.outputs
    let (rest, s) ← methods interface { s with handler, proxy } rest
    return (⟨m.name, m.doc, handle, call, inputs, outputs⟩ :: rest, s)

/-- `Resolve.signals` with a record. -/
def signals (interface snakeName : String) :
    Resolve.Scopes → List Signal → Naming (List ResolvedSignal × Resolve.Scopes)
  | s, [] => pure ([], s)
  | s, g :: rest => do
    let snake := snakeCase g.name
    let (watch, proxy) := s.proxy.claim ("watch_" ++ snake)
    let decode := Ident.ofName ("decode_" ++ snakeName ++ "_" ++ Resolve.behind "watch_" watch)
    let (emit, emitter) := s.emitter.ident ("emit_" ++ snake)
    make [decode, Ident.ofName watch, emit]
    let (args, _) ← arguments interface g.name 0 .ofArguments g.arguments
    let (rest, s) ← signals interface snakeName { s with proxy, emitter } rest
    return (⟨g.name, g.doc, Ident.ofName watch, decode, emit, args⟩ :: rest, s)

/-- `Resolve.properties` with a record. -/
def properties (interface : String) :
    Resolve.Scopes → List Property → Naming (List ResolvedProperty × Resolve.Scopes)
  | s, [] => pure ([], s)
  | s, p :: rest => do
    let snake := snakeCase p.name
    let (field, fields) := s.fields.ident snake
    let (get, proxy) := Resolve.identIf p.access.isReadable s.proxy ("get_" ++ snake)
    let (set, proxy) := Resolve.identIf p.access.isWritable proxy ("set_" ++ snake)
    let (onSet, handler) := Resolve.identIf p.access.isWritable s.handler ("on_set_" ++ snake)
    make (field :: get.toList ++ set.toList ++ onSet.toList)
    let type ← of (Resolve.typeOf interface p.name p.signature)
    let (rest, s) ← properties interface { s with fields, proxy, handler } rest
    return (⟨p.name, p.doc, field, get, set, onSet, type, p.access⟩ :: rest, s)

/-- `Bindings.resolve` with a record. -/
def resolve (i : Interface) : Naming ResolvedInterface := do
  let typeName := Bindings.typeName i.name
  let snakeName := snakeCase typeName
  let (ms, s) ← methods i.name {} i.methods
  let (gs, s) ← signals i.name snakeName s i.signals
  let (ps, _) ← properties i.name s i.properties
  return { name := i.name, doc := i.doc, typeName, snakeName, methods := ms, signals := gs,
           properties := ps }

/-! ### The record takes nothing away -/

theorem result_arguments (interface member : String) :
    ∀ (args : List Argument) (index : Nat) (s : Scope),
      (arguments interface member index s args).result
        = Resolve.arguments interface member index s args
  | [], _, _ => rfl
  | a :: args, index, s => by
    simp [arguments, Resolve.arguments, result_arguments interface member args]
    rfl

theorem result_methods (interface : String) :
    ∀ (ms : List Method) (s : Resolve.Scopes),
      (methods interface s ms).result = Resolve.methods interface s ms
  | [], _ => rfl
  | m :: ms, s => by
    simp [methods, Resolve.methods, result_arguments, result_methods interface ms]
    rfl

theorem result_signals (interface snakeName : String) :
    ∀ (gs : List Signal) (s : Resolve.Scopes),
      (signals interface snakeName s gs).result = Resolve.signals interface snakeName s gs
  | [], _ => rfl
  | g :: gs, s => by
    simp [signals, Resolve.signals, result_arguments, result_signals interface snakeName gs]
    rfl

theorem result_properties (interface : String) :
    ∀ (ps : List Property) (s : Resolve.Scopes),
      (properties interface s ps).result = Resolve.properties interface s ps
  | [], _ => rfl
  | p :: ps, s => by
    simp [properties, Resolve.properties, result_properties interface ps]
    rfl

theorem result_resolve (i : Interface) : (resolve i).result = Bindings.resolve i := by
  simp [resolve, Bindings.resolve, result_methods, result_signals, result_properties]
  rfl

/-! ### The record holds what is resolved -/

theorem ends_arguments (interface member : String) :
    ∀ (args : List Argument) (index : Nat) (s : Scope),
      (arguments interface member index s args).Ends fun ids r => ids = r.1.map (·.ident)
  | [], _, _ => .pure rfl
  | a :: args, index, s => by
    refine Ends.make_bind (Ends.of_bind fun t => ?_)
    exact (ends_arguments interface member args _ _).bind fun ids r hrest =>
      .pure (by simp [hrest])

theorem ends_methods (interface : String) :
    ∀ (ms : List Method) (s : Resolve.Scopes),
      (methods interface s ms).Ends fun ids r => ids = r.1.flatMap (·.idents)
  | [], _ => .pure rfl
  | m :: ms, s => by
    refine Ends.make_bind ?_
    refine (ends_arguments interface m.name _ _ _).bind fun _ inputs hin => ?_
    refine (ends_arguments interface m.name _ _ _).bind fun _ outputs hout => ?_
    exact (ends_methods interface ms _).bind fun _ r hrest =>
      .pure (by simp [hin, hout, hrest, ResolvedMethod.idents])

theorem ends_signals (interface snakeName : String) :
    ∀ (gs : List Signal) (s : Resolve.Scopes),
      (signals interface snakeName s gs).Ends fun ids r => ids = r.1.flatMap (·.idents)
  | [], _ => .pure rfl
  | g :: gs, s => by
    refine Ends.make_bind ?_
    refine (ends_arguments interface g.name _ _ _).bind fun _ args hargs => ?_
    exact (ends_signals interface snakeName gs _).bind fun _ r hrest =>
      .pure (by simp [hargs, hrest, ResolvedSignal.idents])

theorem ends_properties (interface : String) :
    ∀ (ps : List Property) (s : Resolve.Scopes),
      (properties interface s ps).Ends fun ids r => ids = r.1.flatMap (·.idents)
  | [], _ => .pure rfl
  | p :: ps, s => by
    refine Ends.make_bind (Ends.of_bind fun t => ?_)
    exact (ends_properties interface ps _).bind fun _ r hrest =>
      .pure (by simp [hrest, ResolvedProperty.idents])

/-- Of an interface that is resolved, just its identifiers were made. -/
theorem ends_resolve (i : Interface) : (resolve i).Ends fun ids r => ids = r.idents := by
  refine (ends_methods i.name i.methods _).bind fun _ ms hms => ?_
  refine (ends_signals i.name _ i.signals _).bind fun _ gs hgs => ?_
  exact (ends_properties i.name i.properties _).bind fun _ ps hps =>
    .pure (by simp [hms, hgs, hps, ResolvedInterface.idents])

/-! ### All that is made is valid -/

theorem valid_arguments (interface member : String) :
    ∀ (args : List Argument) (index : Nat) (s : Scope),
      (arguments interface member index s args).Valid
  | [], _, _ => valid_pure _
  | a :: args, index, s => by
    have hident : (make [(s.argument a.name index).1]).Valid :=
      List.forall_mem_singleton.2 (s.argument_valid a.name index)
    refine hident.bind fun _ => (valid_of _).bind fun t => ?_
    exact (valid_arguments interface member args _ _).bind fun _ => valid_pure _

theorem valid_methods (interface : String) :
    ∀ (ms : List Method) (s : Resolve.Scopes), (methods interface s ms).Valid
  | [], _ => valid_pure _
  | m :: ms, s => by
    have hsnake := snakeCase_isWord m.name
    have hidents : (make [(s.handler.ident (snakeCase m.name)).1,
        (s.proxy.ident (snakeCase m.name)).1]).Valid :=
      List.forall_mem_cons.2 ⟨s.handler.ident_valid hsnake,
        List.forall_mem_singleton.2 (s.proxy.ident_valid hsnake)⟩
    refine hidents.bind fun _ => (valid_arguments interface m.name _ _ _).bind fun _ => ?_
    exact (valid_arguments interface m.name _ _ _).bind fun _ =>
      (valid_methods interface ms _).bind fun _ => valid_pure _

theorem behind_subset (beginning text : String) :
    ∀ c ∈ (Resolve.behind beginning text).toList, c ∈ text.toList := by
  intro c hc
  unfold Resolve.behind at hc
  dsimp only at hc
  split at hc
  · rw [String.toList_ofList] at hc
    exact List.mem_of_mem_drop hc
  · exact hc

/-- The function that reads a signal is called after the interface and the signal. -/
theorem decode_isWord {snakeName watch : String} (hsnake : IsWord snakeName)
    (hwatch : IsWord watch) :
    IsWord ("decode_" ++ snakeName ++ "_" ++ Resolve.behind "watch_" watch) := by
  have hdecode : IsWord "decode_" := by decide
  exact ((hdecode.append hsnake).append (by decide)).append_right fun c hc =>
    hwatch.chars c (behind_subset _ _ c hc)

theorem valid_signals (interface : String) {snakeName : String} (hname : IsWord snakeName) :
    ∀ (gs : List Signal) (s : Resolve.Scopes), (signals interface snakeName s gs).Valid
  | [], _ => valid_pure _
  | g :: gs, s => by
    have hsnake := snakeCase_isWord g.name
    have hwatch : IsWord (s.proxy.claim ("watch_" ++ snakeCase g.name)).1 :=
      s.proxy.claim_isWord (IsWord.append (by decide) hsnake)
    have hemit : (s.emitter.ident ("emit_" ++ snakeCase g.name)).1.Valid :=
      s.emitter.ident_valid (IsWord.append (by decide) hsnake)
    refine Valid.bind (List.forall_mem_cons.2 ⟨Ident.ofName_valid (decode_isWord hname hwatch),
      List.forall_mem_cons.2 ⟨Ident.ofName_valid hwatch, List.forall_mem_singleton.2 hemit⟩⟩)
      fun _ => ?_
    exact (valid_arguments interface g.name _ _ _).bind fun _ =>
      (valid_signals interface hname gs _).bind fun _ => valid_pure _

theorem identIf_valid (need : Bool) (s : Scope) {name : String} (h : IsWord name) :
    ∀ id ∈ (Resolve.identIf need s name).1.toList, id.Valid := by
  cases need with
  | false => exact List.forall_mem_nil _
  | true => exact List.forall_mem_singleton.2 (s.ident_valid h)

theorem valid_properties (interface : String) :
    ∀ (ps : List Property) (s : Resolve.Scopes), (properties interface s ps).Valid
  | [], _ => valid_pure _
  | p :: ps, s => by
    have hsnake := snakeCase_isWord p.name
    refine Valid.bind (List.forall_mem_append.2 ⟨List.forall_mem_append.2
      ⟨List.forall_mem_cons.2 ⟨s.fields.ident_valid hsnake, ?_⟩, ?_⟩, ?_⟩) fun _ => ?_
    · exact identIf_valid _ _ (IsWord.append (by decide) hsnake)
    · exact identIf_valid _ _ (IsWord.append (by decide) hsnake)
    · exact identIf_valid _ _ (IsWord.append (by decide) hsnake)
    · exact (valid_of _).bind fun _ =>
        (valid_properties interface ps _).bind fun _ => valid_pure _

/-- Whatever names an interface has, and whichever of its signatures are wrong, all identifiers made
for it are valid. -/
theorem valid_resolve (i : Interface) : (resolve i).Valid := by
  refine (valid_methods i.name i.methods _).bind fun r => ?_
  refine (valid_signals i.name (snakeCase_isWord _) i.signals _).bind fun r => ?_
  exact (valid_properties i.name i.properties _).bind fun _ => valid_pure _

end Naming

/-- All identifiers of a resolved interface are valid. -/
theorem idents_of_resolve {i : Interface} {r : ResolvedInterface} (h : resolve i = .ok r) :
    (Naming.resolve i).made = r.idents ∧ ∀ id ∈ r.idents, id.Valid := by
  have hmade := Naming.ends_resolve i r ((Naming.result_resolve i).trans h)
  exact ⟨hmade, hmade ▸ Naming.valid_resolve i⟩

end DBus.Bindings
