import DBus.Proofs.Bindings.Code
import DBus.Proofs.Bindings.Generated

/-!
# Calls from outside the collections

Proxies and handlers stand beside the modules with the routines. Wherever they call a routine, they
name the module of its direction right before it.
-/

namespace DBus.Bindings

open Code (paren brace doc remark call commaSeparated)

/-- The text of a fixed piece. -/
def Piece.fixedText : Piece → String
  | .fixed text => text
  | _ => ""

mutual

/-- The routines that a piece calls without their module right before them; `before` is the text
before the piece. -/
def Piece.unqualified (before : String) : Piece → List (Direction × String)
  | .routine d name => if before = d.module ++ " ::" then [] else [(d, name)]
  | .group _ body => Code.unqualified "" body
  | .fixed _ | .define _ | .use _ | .literal _ | .signature _ => []

/-- The routines that code calls without their module right before them. -/
def Code.unqualified (before : String) : Code → List (Direction × String)
  | [] => []
  | p :: ps => p.unqualified before ++ Code.unqualified p.fixedText ps

end

namespace Code

/-- The text behind code that has a text before it. -/
def textBehind (before : String) (c : Code) : String :=
  c.foldl (fun _ p => p.fixedText) before

variable (before : String)

@[simp] theorem unqualified_nil : unqualified before [] = [] := rfl

@[simp] theorem unqualified_cons (p : Piece) (c : Code) :
    unqualified before (p :: c) = p.unqualified before ++ unqualified p.fixedText c := rfl

attribute [simp] Piece.unqualified

@[simp] theorem unqualified_call (d : Direction) (name : String) :
    unqualified before (call d name) = [] := by
  simp [call, Piece.fixedText]

@[simp] theorem unqualified_paren (body : Code) :
    (paren body).unqualified before = unqualified "" body := rfl

@[simp] theorem unqualified_brace (body : Code) :
    (brace body).unqualified before = unqualified "" body := rfl

@[simp] theorem unqualified_doc (text : String) : unqualified before (doc text) = [] := rfl

@[simp] theorem unqualified_remark (line : String) : unqualified before (remark line) = [] := rfl

@[simp] theorem unqualified_append (c d : Code) :
    unqualified before (c ++ d) = unqualified before c ++ unqualified (textBehind before c) d := by
  induction c generalizing before with
  | nil => rfl
  | cons p c ih => simp [textBehind, ih]

@[simp] theorem unqualified_flatMap {α : Type} {f : α → Code} {xs : List α}
    (h : ∀ x ∈ xs, ∀ before, unqualified before (f x) = []) :
    unqualified before (xs.flatMap f) = [] := by
  induction xs generalizing before with
  | nil => rfl
  | cons x xs ih =>
    rw [List.flatMap_cons, unqualified_append, h x (List.mem_cons_self ..)]
    exact ih _ fun y hy => h y (List.mem_cons_of_mem x hy)

theorem unqualified_commaSeparated {cs : List Code}
    (h : ∀ c ∈ cs, ∀ before, unqualified before c = []) :
    unqualified before (commaSeparated cs) = [] := by
  induction cs generalizing before with
  | nil => rfl
  | cons c cs ih =>
    have hc : ∀ before, unqualified before c = [] := h c (List.mem_cons_self ..)
    have hcs : ∀ before, unqualified before (commaSeparated cs) = [] := fun b =>
      ih b fun d hd => h d (List.mem_cons_of_mem c hd)
    cases cs with
    | nil => exact hc before
    | cons d cs => simp [commaSeparated, hc, hcs]

end Code

open Code

variable {rt : String} (before : String)

/-! ### Arguments -/

@[simp] theorem unqualified_params (f : Ty → String) (args : List ResolvedArgument) :
    unqualified before (Arguments.params f args) = [] :=
  unqualified_commaSeparated before (by simp)

@[simp] theorem unqualified_idents (args : List ResolvedArgument) :
    unqualified before (commaSeparated (args.map fun a => [.use a.ident])) = [] :=
  unqualified_commaSeparated before (by simp)

@[simp] theorem unqualified_readLocals (args : List ResolvedArgument) :
    unqualified before (Arguments.readLocals args).result = [] := by
  simp [Arguments.readLocals]

@[simp] theorem unqualified_writeLocals (args : List ResolvedArgument) :
    unqualified before (Arguments.writeLocals args).result = [] := by
  simp [Arguments.writeLocals]

@[simp] theorem unqualified_tuple (args : List ResolvedArgument) :
    unqualified before (Arguments.tuple args) = [] := by
  unfold Arguments.tuple
  split <;> simp

@[simp] theorem unqualified_fromMessage (message : String) (args : List ResolvedArgument) :
    unqualified before (Arguments.fromMessage message args).result = [] := by
  unfold Arguments.fromMessage
  split <;> simp

@[simp] theorem unqualified_intoMessage (message : String) (args : List ResolvedArgument) :
    unqualified before (Arguments.intoMessage rt message args).result = [] := by
  unfold Arguments.intoMessage
  split <;> simp

/-! ### Properties -/

theorem unqualified_fromBody (ps : List ResolvedProperty) :
    unqualified before (PropertiesStruct.fromBody
      (ps.map fun p => PropertiesStruct.fromArm rt p (routineName .read p.type))) = [] := by
  unfold PropertiesStruct.fromBody
  split
  · simp
  · simp [← List.flatMap_def, PropertiesStruct.fromArm]

theorem unqualified_toBody (ps : List ResolvedProperty) :
    unqualified before (PropertiesStruct.toBody
      (ps.map fun p => PropertiesStruct.toStatement rt p (routineName .write p.type))) = [] := by
  unfold PropertiesStruct.toBody
  split
  · simp
  · simp [← List.flatMap_def, PropertiesStruct.toStatement]

theorem unqualified_propertiesCode (i : ResolvedInterface) :
    unqualified before (Generate.propertiesCode rt i).result = [] := by
  unfold Generate.propertiesCode
  split
  · simp
  · simp [PropertiesStruct.code, PropertiesStruct.conversions, PropertiesStruct.field,
      Function.comp_def, unqualified_fromBody, unqualified_toBody]

/-! ### Proxies -/

theorem unqualified_property (p : ResolvedProperty) :
    unqualified before (Proxy.property rt p).result.functions = [] := by
  rw [Proxy.result_property]
  cases p.get <;> cases p.set <;> simp [Proxy.getter, Proxy.setter]

theorem unqualified_anyProperty :
    unqualified before (Proxy.anyProperty rt).result.functions = [] := by
  simp [Proxy.anyProperty, Proxy.anyGetter, Proxy.anySetter, Proxy.writeOne, Proxy.propertiesCall]

theorem unqualified_allProperties (i : ResolvedInterface) :
    unqualified before (Proxy.allProperties rt i).result.functions = [] ∧
      unqualified before (Proxy.allProperties rt i).result.beside = [] := by
  simp [Proxy.allProperties, Proxy.allGetter, Proxy.watchChanges, Proxy.decodeChanges,
    Proxy.writeOne, Proxy.propertiesCall]

/-- No part of a proxy has a call that is not qualified. -/
theorem unqualified_of_mem_sections {i : ResolvedInterface} {part : Proxy.Section}
    (h : part ∈ (Proxy.sections rt i).result) :
    unqualified before part.functions = [] ∧ unqualified before part.beside = [] := by
  rcases Proxy.mem_sections.1 h with ⟨m, -, rfl⟩ | ⟨s, -, rfl⟩ | ⟨-, rfl | ⟨p, -, rfl⟩ | rfl⟩
  · simp [Proxy.method]
  · simp [Proxy.signal, Proxy.watch]
  · exact ⟨unqualified_anyProperty before, rfl⟩
  · exact ⟨unqualified_property before p, by simp [Proxy.result_property]⟩
  · exact unqualified_allProperties before i

theorem unqualified_proxy (i : ResolvedInterface) :
    unqualified before (Proxy.code rt i).result = [] := by
  have hfunctions : ∀ before,
      unqualified before ((Proxy.sections rt i).result.flatMap (·.functions)) = [] := fun b =>
    unqualified_flatMap b fun _ h b => (unqualified_of_mem_sections b h).1
  have hbeside : ∀ before,
      unqualified before ((Proxy.sections rt i).result.flatMap (·.beside)) = [] := fun b =>
    unqualified_flatMap b fun _ h b => (unqualified_of_mem_sections b h).2
  simp [Proxy.code, Proxy.opening, hfunctions, hbeside]

/-! ### Handlers -/

theorem unqualified_trait (i : ResolvedInterface) :
    unqualified before (Handler.traitCode rt i) = [] := by
  have honSet : ∀ p before, unqualified before (Handler.traitOnSet rt p) = [] := by
    intro p before
    unfold Handler.traitOnSet
    split <;> simp
  simp [Handler.traitCode, Handler.traitMethod, honSet]

theorem unqualified_readInputs (inputs : List ResolvedArgument) :
    unqualified before (Handler.readInputs rt inputs).result = [] := by
  unfold Handler.readInputs
  split <;> simp

theorem unqualified_writeOutput (a : ResolvedArgument) (place : String) :
    unqualified before (Handler.writeOutput a place).result = [] := by
  simp [Handler.writeOutput]

theorem unqualified_writeFields (args : List ResolvedArgument) (n : Nat) :
    unqualified before (Handler.writeFields n args).result = [] := by
  induction args generalizing n before with
  | nil => rfl
  | cons a args ih => simp [Handler.writeFields, unqualified_writeOutput, ih]

theorem unqualified_replyArm (outputs : List ResolvedArgument) :
    unqualified before (Handler.replyArm rt outputs).result = [] := by
  have hwrite : ∀ before, unqualified before (Handler.writeOutputs outputs).result = [] := by
    intro before
    unfold Handler.writeOutputs
    split <;> simp [unqualified_writeFields, unqualified_writeOutput]
  unfold Handler.replyArm
  split <;> simp [hwrite]

theorem unqualified_dispatch (i : ResolvedInterface) :
    unqualified before (Handler.dispatch rt i).result = [] := by
  unfold Handler.dispatch
  split <;> simp [Handler.dispatchArm, unqualified_readInputs, unqualified_replyArm]

theorem unqualified_getArm (p : ResolvedProperty) :
    unqualified before (Handler.getArm rt p).result = [] := by
  unfold Handler.getArm
  split <;> simp

theorem unqualified_setArm (p : ResolvedProperty) :
    unqualified before (Handler.setArm rt p).result = [] := by
  unfold Handler.setArm
  split
  · cases p.access.isReadable <;> simp
  · simp

theorem unqualified_propertyFunctions (i : ResolvedInterface) :
    unqualified before (Handler.propertyFunctions rt i).result = [] := by
  simp [Handler.propertyFunctions, Handler.propertyArms, List.flatMap_map, unqualified_getArm,
    unqualified_setArm]

theorem unqualified_struct (i : ResolvedInterface) :
    unqualified before (Handler.structCode rt i).result = [] := by
  cases hproperties : i.properties.isEmpty <;>
    simp [Handler.structCode, hproperties, unqualified_dispatch, unqualified_propertyFunctions]

theorem unqualified_emitter (i : ResolvedInterface) :
    unqualified before (Handler.emitterCode rt i).result = [] := by
  have hchanges : ∀ before, unqualified before (Handler.emitChanges rt i) = [] := by
    intro before
    unfold Handler.emitChanges
    split <;> simp
  simp [Handler.emitterCode, Handler.emit, hchanges]

theorem unqualified_handler (i : ResolvedInterface) :
    unqualified before (Handler.code rt i).result = [] := by
  simp [Handler.code, unqualified_trait, unqualified_struct, unqualified_emitter]

/-! ### Units -/

/-- All calls of a proxy or handler are qualified. -/
theorem unqualified_of_mem_unitsOf {i : ResolvedInterface} {mode : Mode} {u : CodeUnit}
    (h : u ∈ Generate.unitsOf rt i mode) : unqualified before u.code = [] := by
  rw [Generate.unitsOf_eq_append] at h
  rcases List.mem_append.1 h with hu | hu
  · split at hu
    · obtain rfl := List.mem_singleton.1 hu
      simp [unqualified_propertiesCode, unqualified_proxy]
    · cases hu
  · split at hu
    · obtain rfl := List.mem_singleton.1 hu
      cases mode.meets .proxy <;> simp [unqualified_propertiesCode, unqualified_handler]
    · cases hu

end DBus.Bindings
