import DBus.Proofs.Bindings.Passing
import DBus.Proofs.Bindings.Resolve

/-!
# The two ends of an exchange

A proxy and a handler are generated apart. For each member of an interface they name the same
member and agree on the signatures of what they send and expect, and the values go out through the
writers of the types through whose readers they come in.
-/

namespace DBus.Bindings

open Code (paren brace passedTo given literals attached sentSignature expected boxed unboxed values
  calls lastWord_append lastWord_text)
open List (Forall₂)

/-- Types spelled by the signatures of some arguments, in order. -/
def SpelledBy (args : List Argument) (types : List Ty) : Prop :=
  Forall₂ (fun a t => Ty.parse a.signature = .ok t) args types

/-- One end sends a message with values of some types, which the other end takes. The routines that
they call have names that tell the types. -/
structure Sends (types : List Ty) (sender receiver : Code) : Prop where
  /-- Without values there is no body to attach a signature to. -/
  attaches : attached sender = if types.isEmpty then [] else [Ty.signatureOf types]
  expects : expected receiver = [sentSignature sender]
  writes : values .write sender = types.map (routineName .write)
  reads : values .read receiver = types.map (routineName .read)

/-- One end puts a value of a type into a box, which the other end takes out of it. -/
structure Boxes (type : Ty) (sender receiver : Code) : Prop where
  boxes : boxed sender = [Ty.signatureOf [type]]
  unboxes : unboxed receiver = boxed sender
  writes : values .write sender = [routineName .write type]
  reads : values .read receiver = [routineName .read type]

theorem values_routinesFor (d e : Direction) (args : List ResolvedArgument) :
    ((routinesFor e args).filterMap fun r => if r.1 = d then some r.2 else none)
      = if e = d then (typesOf args).map (routineName d) else [] := by
  cases d <;> cases e <;> simp [routinesFor, typesOf, List.filterMap_map]

theorem sends_of {args : List ResolvedArgument} {sender receiver : Code}
    (ha : attached sender = if args.isEmpty then [] else [Ty.signatureOf (typesOf args)])
    (he : expected receiver = [Ty.signatureOf (typesOf args)])
    (hw : values .write sender = (typesOf args).map (routineName .write))
    (hr : values .read receiver = (typesOf args).map (routineName .read)) :
    Sends (typesOf args) sender receiver := by
  refine ⟨?_, ?_, hw, hr⟩
  · rw [ha, typesOf, List.isEmpty_map]
  · rw [he, sentSignature, ha]
    cases args with
    | nil => rfl
    | cons a args => rfl

/-! ### Methods -/

section Methods

variable (rt : String) (m : ResolvedMethod) (args : List ResolvedArgument)
  (function before : String)

theorem member_method :
    given (Proxy.method rt m).result.functions "method_call"
      = [.fixed "& self . path ,", .literal m.name] := by
  simp [given, Proxy.method, Piece.fixedText, passedTo_intoMessage, passedTo_fromMessage,
    lastWord_append, lastWord_text]

theorem attached_method :
    attached (Proxy.method rt m).result.functions =
      if m.inputs.isEmpty then [] else [Ty.signatureOf (typesOf m.inputs)] := by
  apply attached_of_attachment rt
  simp [given, Proxy.method, Piece.fixedText, withBody_intoMessage, passedTo_fromMessage,
    lastWord_append, lastWord_text]

theorem expected_method :
    expected (Proxy.method rt m).result.functions = [Ty.signatureOf (typesOf m.outputs)] := by
  simp [expected, given, Proxy.method, Piece.fixedText, passedTo_intoMessage, bodyOf_fromMessage,
    lastWord_append, lastWord_text]

theorem calls_method :
    calls (Proxy.method rt m).result.functions
      = routinesFor .write m.inputs ++ routinesFor .read m.outputs := by
  simp [Proxy.method]

theorem bodyOf_readInputs :
    passedTo "body_of" before (Handler.readInputs rt args).result
      = [.signature (typesOf args)] := by
  cases args <;> simp [Handler.readInputs, Piece.fixedText, lastWord_text]

theorem passedTo_readInputs (h : function ≠ "body_of") :
    passedTo function before (Handler.readInputs rt args).result = [] := by
  cases args <;> simp [Handler.readInputs, Piece.fixedText, lastWord_text, h.symm]

theorem calls_readInputs : calls (Handler.readInputs rt args).result = routinesFor .read args := by
  cases args with
  | nil => rfl
  | cons a args => simp [Handler.readInputs, calls_readLocals]

theorem passedTo_writeOutputs :
    passedTo function before (Handler.writeOutputs args).result = [] := by
  have hfields : ∀ n before, passedTo function before (Handler.writeFields n args).result = [] := by
    induction args with
    | nil => exact fun _ _ => rfl
    | cons a args ih => intro n before; simp [Handler.writeFields, Handler.writeOutput, ih]
  unfold Handler.writeOutputs
  split
  · simp [Handler.writeOutput]
  · exact hfields 0 before

theorem calls_writeOutputs :
    calls (Handler.writeOutputs args).result = routinesFor .write args := by
  have hfields : ∀ n, calls (Handler.writeFields n args).result = routinesFor .write args := by
    induction args with
    | nil => exact fun _ => rfl
    | cons a args ih => intro n; simp [Handler.writeFields, Handler.writeOutput, ih, routinesFor]
  unfold Handler.writeOutputs
  split
  · rfl
  · exact hfields 0

theorem withBody_replyArm :
    passedTo "with_body" before (Handler.replyArm rt args).result
      = Arguments.attachment rt args := by
  unfold Handler.replyArm Arguments.attachment
  split <;> simp [passedTo_writeOutputs, Piece.fixedText, lastWord_append, Code.textBehind]

theorem passedTo_replyArm (h : function ∉ ["with_body", "new"]) :
    passedTo function before (Handler.replyArm rt args).result = [] := by
  simp only [List.mem_cons, List.not_mem_nil, or_false, not_or] at h
  unfold Handler.replyArm
  split <;> simp [passedTo_writeOutputs, Piece.fixedText, lastWord_append, Code.textBehind,
    Ne.symm h.1, Ne.symm h.2]

theorem calls_replyArm : calls (Handler.replyArm rt args).result = routinesFor .write args := by
  cases args with
  | nil => rfl
  | cons a args => simp [Handler.replyArm, calls_writeOutputs]

theorem member_dispatchArm :
    given (Handler.dispatchArm rt m).result "Some" = [.literal m.name] := by
  simp [given, Handler.dispatchArm, passedTo_readInputs, passedTo_replyArm, Piece.fixedText,
    lastWord_text]

theorem expected_dispatchArm :
    expected (Handler.dispatchArm rt m).result = [Ty.signatureOf (typesOf m.inputs)] := by
  simp [expected, given, Handler.dispatchArm, bodyOf_readInputs, passedTo_replyArm, Piece.fixedText,
    lastWord_text]

theorem attached_dispatchArm :
    attached (Handler.dispatchArm rt m).result =
      if m.outputs.isEmpty then [] else [Ty.signatureOf (typesOf m.outputs)] := by
  apply attached_of_attachment rt
  simp [given, Handler.dispatchArm, passedTo_readInputs, withBody_replyArm, Piece.fixedText,
    lastWord_text]

theorem calls_dispatchArm :
    calls (Handler.dispatchArm rt m).result
      = routinesFor .read m.inputs ++ routinesFor .write m.outputs := by
  simp [Handler.dispatchArm, calls_readInputs, calls_replyArm]

theorem method_sends :
    Sends (typesOf m.inputs) (Proxy.method rt m).result.functions
      (Handler.dispatchArm rt m).result := by
  refine sends_of (attached_method rt m) (expected_dispatchArm rt m) ?_ ?_
  · simp [values, calls_method, values_routinesFor]
  · simp [values, calls_dispatchArm, values_routinesFor]

theorem dispatchArm_sends :
    Sends (typesOf m.outputs) (Handler.dispatchArm rt m).result
      (Proxy.method rt m).result.functions := by
  refine sends_of (attached_dispatchArm rt m) (expected_method rt m) ?_ ?_
  · simp [values, calls_dispatchArm, values_routinesFor]
  · simp [values, calls_method, values_routinesFor]

end Methods

/-! ### Signals -/

section Signals

variable (rt : String) (s : ResolvedSignal)

theorem member_emit :
    given (Handler.emit rt s).result "signal" = [.fixed "& self . path ,", .literal s.name] := by
  simp [given, Handler.emit, passedTo_intoMessage, Piece.fixedText, lastWord_append, lastWord_text]

theorem member_watch :
    given (Proxy.signal rt s).result.functions "new"
      = [.fixed "Self :: INTERFACE ,", .literal s.name] := by
  simp [given, Proxy.signal, Proxy.watch, Piece.fixedText, lastWord_append, lastWord_text,
    -String.reduceAppend]

theorem emit_sends :
    Sends (typesOf s.arguments) (Handler.emit rt s).result (Proxy.signal rt s).result.beside := by
  have hexpected : given (Proxy.signal rt s).result.beside "body_of"
      = [.signature (typesOf s.arguments)] := by
    simp [given, Proxy.signal, Piece.fixedText, bodyOf_fromMessage]
  refine sends_of (attached_of_attachment rt ?_) (by rw [expected, hexpected]; rfl) ?_ ?_
  · simp [given, Handler.emit, Piece.fixedText, withBody_intoMessage, lastWord_append,
      lastWord_text]
  · simp [values, Handler.emit, values_routinesFor]
  · simp [values, Proxy.signal, values_routinesFor]

end Signals

/-! ### Properties -/

section Properties

variable (rt : String) (p : ResolvedProperty)

theorem member_getter (get : Ident) :
    given (Proxy.getter rt p get).result "get_property_variant" = [.literal p.name] := by
  simp [given, Proxy.getter, Piece.fixedText, lastWord_append, lastWord_text]

theorem member_setter (set : Ident) :
    given (Proxy.setter rt p set).result "set_property_variant"
      = [.literal p.name, .fixed ", & value"] := by
  simp [given, Proxy.setter, Piece.fixedText, Code.textBehind, lastWord_text]

theorem getArm_boxes (h : p.access.isReadable = true) (get : Ident) :
    Boxes p.type (Handler.getArm rt p).result (Proxy.getter rt p get).result := by
  have hboxed : boxed (Handler.getArm rt p).result = [Ty.signatureOf [p.type]] := by
    simp [boxed, given, Handler.getArm, h, Piece.fixedText, Code.textBehind, lastWord_append,
      lastWord_text]
  refine ⟨hboxed, ?_, ?_, ?_⟩
  · rw [hboxed]
    simp [unboxed, given, Proxy.getter, Piece.fixedText, lastWord_append, lastWord_text]
  · simp [values, Handler.getArm, h]
  · simp [values, Proxy.getter]

theorem setter_boxes {onSet : Ident} (h : p.onSet = some onSet) (set : Ident) :
    Boxes p.type (Proxy.setter rt p set).result (Handler.setArm rt p).result := by
  have hboxed : boxed (Proxy.setter rt p set).result = [Ty.signatureOf [p.type]] := by
    simp [boxed, given, Proxy.setter, Piece.fixedText, Code.textBehind, lastWord_text]
  refine ⟨hboxed, ?_, ?_, ?_⟩
  · rw [hboxed]
    cases hr : p.access.isReadable <;>
      simp [unboxed, given, Handler.setArm, h, hr, Piece.fixedText, Code.textBehind,
        lastWord_append]
  · simp [values, Proxy.setter]
  · cases hr : p.access.isReadable <;> simp [values, Handler.setArm, h, hr]

end Properties

/-! ### Members in the code of an interface -/

/-- Code that stands together somewhere in other code, perhaps deep inside of braces. -/
inductive Code.Within (c : Code) : Code → Prop where
  | here {d : Code} (h : c <:+: d) : Within c d
  | inside {d body : Code} (h : Within c body) (hd : brace body ∈ d) : Within c d

theorem Code.infix_flatMap {α : Type} (f : α → Code) {xs : List α} {x : α} (h : x ∈ xs) :
    f x <:+: xs.flatMap f :=
  List.infix_of_mem_flatten (List.mem_map_of_mem h)

theorem Code.Within.of_infix {c d e : Code} (h : c.Within d) (he : d <:+: e) : c.Within e := by
  cases h with
  | here h => exact .here (h.trans he)
  | inside h hd => exact .inside h (he.subset hd)

theorem Code.Within.trans {c d e : Code} (h : c.Within d) (he : d.Within e) : c.Within e := by
  induction he with
  | here he => exact h.of_infix he
  | inside _ hd ih => exact .inside ih hd

section Members

variable {rt : String} {i : ResolvedInterface}

theorem functions_within {part : Proxy.Section} (h : part ∈ (Proxy.sections rt i).result) :
    part.functions.Within (Proxy.code rt i).result := by
  have hpart : part.functions <:+:
      Proxy.opening rt i.name ++ (Proxy.sections rt i).result.flatMap (·.functions) :=
    (Code.infix_flatMap _ h).trans (List.suffix_append ..).isInfix
  exact .inside (.here hpart) (by simp [Proxy.code])

theorem beside_within {part : Proxy.Section} (h : part ∈ (Proxy.sections rt i).result) :
    part.beside.Within (Proxy.code rt i).result := by
  simp only [Proxy.code, Generator.result_bind, Generator.result_pure]
  exact .here ((Code.infix_flatMap _ h).trans (List.suffix_append ..).isInfix)

theorem property_within {p : ResolvedProperty} (h : p ∈ i.properties) :
    (Proxy.property rt p).result.functions.Within (Proxy.code rt i).result :=
  functions_within
    (Proxy.mem_sections.2 (.inr (.inr ⟨List.ne_nil_of_mem h, .inr (.inl ⟨p, h, rfl⟩)⟩)))

/-- The code of the members of an interface stands in the code of its proxy and handler. -/
structure MembersWithin (rt : String) (i : ResolvedInterface) : Prop where
  method : ∀ m ∈ i.methods, (Proxy.method rt m).result.functions.Within (Proxy.code rt i).result
  dispatchArm : ∀ m ∈ i.methods, (Handler.dispatchArm rt m).result.Within (Handler.code rt i).result
  watch : ∀ s ∈ i.signals, (Proxy.signal rt s).result.functions.Within (Proxy.code rt i).result
  decode : ∀ s ∈ i.signals, (Proxy.signal rt s).result.beside.Within (Proxy.code rt i).result
  emit : ∀ s ∈ i.signals, (Handler.emit rt s).result.Within (Handler.code rt i).result
  getter : ∀ p ∈ i.properties, ∀ get, p.get = some get →
    (Proxy.getter rt p get).result.Within (Proxy.code rt i).result
  setter : ∀ p ∈ i.properties, ∀ set, p.set = some set →
    (Proxy.setter rt p set).result.Within (Proxy.code rt i).result
  getArm : ∀ p ∈ i.properties, (Handler.getArm rt p).result.Within (Handler.code rt i).result
  setArm : ∀ p ∈ i.properties, (Handler.setArm rt p).result.Within (Handler.code rt i).result

theorem handler_eq (rt : String) (i : ResolvedInterface) :
    (Handler.code rt i).result = Handler.traitCode rt i ++ (Handler.structCode rt i).result
      ++ (Handler.emitterCode rt i).result := by
  simp [Handler.code]

/-- The functions that every handler has. -/
def implementation (rt : String) (i : ResolvedInterface) : Code :=
  [.fixed "# [inline] fn interface_name (& self) -> & 'static str", brace [.literal i.name]]
    ++ (Handler.dispatch rt i).result ++ (Handler.propertyFunctions rt i).result

theorem implementation_within :
    (implementation rt i).Within (Handler.code rt i).result := by
  have hstruct : (Handler.structCode rt i).result <:+: (Handler.code rt i).result := by
    rw [handler_eq]
    exact (List.suffix_append ..).isInfix.trans (List.prefix_append ..).isInfix
  exact .trans (.inside (.here List.infix_rfl) (by simp [Handler.structCode, implementation]))
    (.here hstruct)

theorem dispatch_within : (Handler.dispatch rt i).result.Within (Handler.code rt i).result := by
  have hbody : (Handler.dispatch rt i).result <:+: implementation rt i :=
    (List.suffix_append ..).isInfix.trans (List.prefix_append ..).isInfix
  exact .trans (.here hbody) implementation_within

theorem propertyFunctions_within :
    (Handler.propertyFunctions rt i).result.Within (Handler.code rt i).result := by
  have hbody : (Handler.propertyFunctions rt i).result <:+: implementation rt i :=
    (List.suffix_append ..).isInfix
  exact .trans (.here hbody) implementation_within

theorem dispatchArm_within {m : ResolvedMethod} (h : m ∈ i.methods) :
    (Handler.dispatchArm rt m).result.Within (Handler.code rt i).result := by
  have harms : (Handler.dispatchArm rt m).result.Within
      (i.methods.flatMap (fun m => (Handler.dispatchArm rt m).result)
        ++ [.fixed ("_ => return Ok (" ++ rt ++ " :: Dispatch :: UnknownMember) ,")]) :=
    .here ((Code.infix_flatMap (fun m => (Handler.dispatchArm rt m).result) h).trans
      (List.prefix_append ..).isInfix)
  have hnonempty : i.methods.isEmpty = false := by
    simpa using List.ne_nil_of_mem h
  refine .trans ?_ dispatch_within
  simp only [Handler.dispatch, hnonempty, Bool.false_eq_true, if_false, Generator.result_bind,
    Generator.result_each, Generator.result_pure]
  exact .inside (.inside harms (by simp)) (List.mem_cons_of_mem _ (List.mem_singleton_self _))

/-- The arms of the two functions of properties stand in the same place of their functions. -/
theorem arm_within (arm : ResolvedProperty → Code) {p : ResolvedProperty} (h : p ∈ i.properties)
    (tail : Code) {d : Code}
    (hd : brace [.fixed "match name", brace (i.properties.flatMap arm ++ tail)] ∈ d) :
    (arm p).Within d := by
  have harms : (arm p).Within (i.properties.flatMap arm ++ tail) :=
    .here ((Code.infix_flatMap _ h).trans (List.prefix_append ..).isInfix)
  exact .inside (.inside harms (List.mem_cons_of_mem _ (List.mem_singleton_self _))) hd

theorem getArm_within {p : ResolvedProperty} (h : p ∈ i.properties) :
    (Handler.getArm rt p).result.Within (Handler.code rt i).result := by
  refine .trans ?_ propertyFunctions_within
  simp only [Handler.propertyFunctions, Handler.propertyArms, Generator.result_bind,
    Generator.result_mapM', Generator.result_pure, List.flatMap_map]
  exact arm_within (fun p => (Handler.getArm rt p).result) h _ (.tail _ (.head _))

theorem setArm_within {p : ResolvedProperty} (h : p ∈ i.properties) :
    (Handler.setArm rt p).result.Within (Handler.code rt i).result := by
  refine .trans ?_ propertyFunctions_within
  simp only [Handler.propertyFunctions, Handler.propertyArms, Generator.result_bind,
    Generator.result_mapM', Generator.result_pure, List.flatMap_map]
  exact arm_within (fun p => (Handler.setArm rt p).result) h _
    (.tail _ (.tail _ (.tail _ (.head _))))

theorem emit_within {s : ResolvedSignal} (h : s ∈ i.signals) :
    (Handler.emit rt s).result.Within (Handler.code rt i).result := by
  have hemitter : (Handler.emitterCode rt i).result.Within (Handler.code rt i).result := by
    rw [handler_eq]
    exact .here (List.suffix_append ..).isInfix
  refine .trans ?_ hemitter
  have hemits : (Handler.emit rt s).result <:+:
      i.signals.flatMap fun s => (Handler.emit rt s).result :=
    Code.infix_flatMap (fun s => (Handler.emit rt s).result) h
  simp only [Handler.emitterCode, Generator.result_bind, Generator.result_each,
    Generator.result_pure]
  -- the implementation is the last piece of the emitter
  refine .inside (.here ?_) (List.mem_append_right _
    (.tail _ (.tail _ (.tail _ (.tail _ (.tail _ (.tail _ (.tail _ (.head _)))))))))
  exact hemits.trans ((List.suffix_append ..).isInfix.trans (List.prefix_append ..).isInfix)

theorem membersWithin (rt : String) (i : ResolvedInterface) : MembersWithin rt i where
  method m h := functions_within (Proxy.mem_sections.2 (.inl ⟨m, h, rfl⟩))
  watch s h := functions_within (Proxy.mem_sections.2 (.inr (.inl ⟨s, h, rfl⟩)))
  decode s h := beside_within (Proxy.mem_sections.2 (.inr (.inl ⟨s, h, rfl⟩)))
  getter p h get hget := by
    have hpart : (Proxy.getter rt p get).result <:+: (Proxy.property rt p).result.functions := by
      rw [Proxy.result_property, hget]
      exact (List.prefix_append ..).isInfix
    exact .trans (.here hpart) (property_within h)
  setter p h set hset := by
    have hpart : (Proxy.setter rt p set).result <:+: (Proxy.property rt p).result.functions := by
      rw [Proxy.result_property, hset]
      exact (List.suffix_append ..).isInfix
    exact .trans (.here hpart) (property_within h)
  dispatchArm m h := dispatchArm_within h
  getArm p h := getArm_within h
  setArm p h := setArm_within h
  emit s h := emit_within h

end Members

/-! ### Both ends of a member -/

/-- The functions of a property are those that its access has a use for. -/
structure ResolvedProperty.Accessors (p : ResolvedProperty) : Prop where
  get : p.get.isSome = p.access.isReadable
  set : p.set.isSome = p.access.isWritable
  onSet : p.onSet.isSome = p.access.isWritable

namespace Resolve

theorem isSome_identIf (need : Bool) (s : Scope) (name : String) :
    (identIf need s name).1.isSome = need := by
  cases need <;> rfl

theorem properties_accessors {interface : String} :
    ∀ {ps : List Property} {s s' : Scopes} {rs : List ResolvedProperty},
      properties interface s ps = .ok (rs, s') → ∀ r ∈ rs, r.Accessors
  | [], _, _, _, h => by cases h; exact List.forall_mem_nil _
  | p :: ps, s, s', rs, h => by
    rw [properties, bind_eq_ok_iff] at h
    obtain ⟨t, ht, h⟩ := h
    obtain ⟨⟨rest, s₁⟩, hrest, h⟩ := bind_eq_ok_iff.1 h
    cases h
    refine List.forall_mem_cons.2 ⟨⟨?_, ?_, ?_⟩, properties_accessors hrest⟩ <;>
      exact isSome_identIf ..

end Resolve

/-- The two ends of a call of a method. The arm of the handler is the one that is made for the
method; where methods share a name, a call reaches the first arm that has it. -/
structure Method.EndsMeet (rt : String) (m : Method) (r : ResolvedMethod) : Prop where
  called : literals (given (Proxy.method rt r).result.functions "method_call") = [m.name]
  answered : literals (given (Handler.dispatchArm rt r).result "Some") = [m.name]
  inputs : ∃ types, SpelledBy m.inputs types ∧
    Sends types (Proxy.method rt r).result.functions (Handler.dispatchArm rt r).result
  outputs : ∃ types, SpelledBy m.outputs types ∧
    Sends types (Handler.dispatchArm rt r).result (Proxy.method rt r).result.functions

/-- The two ends of a signal. -/
structure Signal.EndsMeet (rt : String) (g : Signal) (r : ResolvedSignal) : Prop where
  emitted : literals (given (Handler.emit rt r).result "signal") = [g.name]
  watched : literals (given (Proxy.signal rt r).result.functions "new") = [g.name]
  arguments : ∃ types, SpelledBy g.arguments types ∧
    Sends types (Handler.emit rt r).result (Proxy.signal rt r).result.beside

/-- The two ends of getting a property. -/
structure Property.GetsMeet (rt : String) (p : Property) (r : ResolvedProperty) (get : Ident) :
    Prop where
  asked : literals (given (Proxy.getter rt r get).result "get_property_variant") = [p.name]
  answered : literals (Handler.getArm rt r).result = [p.name]
  value : ∃ type, Ty.parse p.signature = .ok type ∧
    Boxes type (Handler.getArm rt r).result (Proxy.getter rt r get).result

/-- The two ends of setting a property. -/
structure Property.SetsMeet (rt : String) (p : Property) (r : ResolvedProperty) (set : Ident) :
    Prop where
  asked : literals (given (Proxy.setter rt r set).result "set_property_variant") = [p.name]
  answered : literals (Handler.setArm rt r).result = [p.name]
  value : ∃ type, Ty.parse p.signature = .ok type ∧
    Boxes type (Proxy.setter rt r set).result (Handler.setArm rt r).result

/-- The two ends of a property: there is a function to get it, or to set it, when its access allows
it, and then that function and the arm of the handler meet. -/
structure Property.EndsMeet (rt : String) (p : Property) (r : ResolvedProperty) : Prop where
  readable : r.get.isSome = p.access.isReadable
  writable : r.set.isSome = p.access.isWritable
  get : ∀ get, r.get = some get → p.GetsMeet rt r get
  set : ∀ set, r.set = some set → p.SetsMeet rt r set

section Meet

variable {rt : String}

theorem spelledBy_typesOf {args : List Argument} {rs : List ResolvedArgument}
    (h : Forall₂ Argument.Resolves args rs) : SpelledBy args (typesOf rs) :=
  List.forall₂_map_right_iff.2 h

theorem method_endsMeet {m : Method} {r : ResolvedMethod} (h : m.Resolves r) :
    m.EndsMeet rt r where
  called := by rw [member_method, ← h.name]; rfl
  answered := by rw [member_dispatchArm, ← h.name]; rfl
  inputs := ⟨_, spelledBy_typesOf h.inputs, method_sends rt r⟩
  outputs := ⟨_, spelledBy_typesOf h.outputs, dispatchArm_sends rt r⟩

theorem signal_endsMeet {g : Signal} {r : ResolvedSignal} (h : g.Resolves r) :
    g.EndsMeet rt r where
  emitted := by rw [member_emit, ← h.name]; rfl
  watched := by rw [member_watch, ← h.name]; rfl
  arguments := ⟨_, spelledBy_typesOf h.arguments, emit_sends rt r⟩

theorem literals_getArm (p : ResolvedProperty) :
    literals (Handler.getArm rt p).result = [p.name] := by
  unfold Handler.getArm
  split <;> rfl

theorem literals_setArm (p : ResolvedProperty) :
    literals (Handler.setArm rt p).result = [p.name] := by
  unfold Handler.setArm
  split <;> rfl

theorem property_endsMeet {p : Property} {r : ResolvedProperty} (h : p.Resolves r)
    (ha : r.Accessors) : p.EndsMeet rt r where
  readable := by rw [ha.get, h.access]
  writable := by rw [ha.set, h.access]
  get get hget := by
    have hreadable : r.access.isReadable = true := by rw [← ha.get, hget]; rfl
    refine ⟨?_, ?_, _, h.type, getArm_boxes rt r hreadable get⟩
    · rw [member_getter, ← h.name]; rfl
    · rw [literals_getArm, h.name]
  set set hset := by
    have hwritable : r.onSet.isSome := by rw [ha.onSet, ← ha.set, hset]; rfl
    obtain ⟨onSet, honSet⟩ := Option.isSome_iff_exists.1 hwritable
    refine ⟨?_, ?_, _, h.type, setter_boxes rt r honSet set⟩
    · rw [member_setter, ← h.name]; rfl
    · rw [literals_setArm, h.name]

end Meet

/-- The proxy and the handler of an interface agree on the wire. -/
structure Interface.EndsMeet (rt : String) (i : Interface) (r : ResolvedInterface) : Prop where
  methods : Forall₂ (Method.EndsMeet rt) i.methods r.methods
  signals : Forall₂ (Signal.EndsMeet rt) i.signals r.signals
  properties : Forall₂ (Property.EndsMeet rt) i.properties r.properties
  /-- What is said of the members is said of code in the proxy and the handler. -/
  within : MembersWithin rt r

theorem resolve_endsMeet {i : Interface} {r : ResolvedInterface} (h : resolve i = .ok r)
    (rt : String) : i.EndsMeet rt r := by
  have hi := resolve_resolves h
  have haccessors : ∀ p ∈ r.properties, p.Accessors := by
    obtain ⟨ms, s, gs, s', ps, s'', -, -, hp, rfl⟩ := resolve_eq_ok_iff.1 h
    exact Resolve.properties_accessors hp
  have hproperties := (List.forall₂_and_left _ _).2 ⟨haccessors, hi.properties.flip⟩
  exact ⟨hi.methods.imp fun _ _ => method_endsMeet, hi.signals.imp fun _ _ => signal_endsMeet,
    hproperties.flip.imp fun _ _ hp => property_endsMeet hp.2 hp.1, membersWithin rt r⟩

/-- An interface with a method of each shape, a signal, and a property to be read and written. -/
def counterInterface : Interface where
  name := "org.example.Counter"
  methods := [⟨"Reset", [], [], none⟩, ⟨"Read", [⟨some "key", "s"⟩], [⟨none, "u"⟩], none⟩,
    ⟨"Swap", [⟨some "key", "s"⟩, ⟨some "value", "u"⟩], [⟨none, "u"⟩, ⟨none, "(us)"⟩], none⟩]
  signals := [⟨"Changed", [⟨some "key", "s"⟩, ⟨some "value", "u"⟩], none⟩]
  properties := [⟨"Limit", "u", .readWrite, none⟩]
  doc := none

theorem counterInterface_endsMeet :
    ∃ r, resolve counterInterface = .ok r ∧ counterInterface.EndsMeet "tokio_dbus" r := by
  have hstring : Ty.parse "s" = .ok (.basic .string) := by decide +kernel
  have hnumber : Ty.parse "u" = .ok (.basic .uint32) := by decide +kernel
  have hpair : Ty.parse "(us)" = .ok (.struct [.basic .uint32, .basic .string]) := by
    decide +kernel
  obtain ⟨r, hr⟩ : ∃ r, resolve counterInterface = .ok r :=
    exists_resolve_iff.2 (by
      simp [counterInterface, Interface.argumentLists, hstring, hnumber, hpair])
  exact ⟨r, hr, resolve_endsMeet hr "tokio_dbus"⟩

end DBus.Bindings
