import DBus.Bindings.Resolve
import DBus.Proofs.Steps
import Mathlib.Data.List.Forall2

/-!
# What resolving an interface keeps

A resolved interface has its members in the order in which the interface has them, each with its
name, its documentation and the types that its signatures spell.
-/

namespace DBus.Bindings

open List (Forall₂)

section Related

variable {α β : Type} {R : α → β → Prop} {as : List α} {bs : List β}

/-- Each element of a list is related to one of the other list. -/
theorem exists_right (h : Forall₂ R as bs) {a : α} (ha : a ∈ as) : ∃ b ∈ bs, R a b := by
  induction h with
  | nil => cases ha
  | cons hr _ ih =>
    rcases List.mem_cons.1 ha with rfl | ha
    · exact ⟨_, List.mem_cons_self .., hr⟩
    · obtain ⟨b, hb, hab⟩ := ih ha
      exact ⟨b, List.mem_cons_of_mem _ hb, hab⟩

theorem exists_left (h : Forall₂ R as bs) {b : β} (hb : b ∈ bs) : ∃ a ∈ as, R a b :=
  exists_right h.flip hb

end Related

/-- What an argument keeps. -/
def Argument.Resolves (a : Argument) (r : ResolvedArgument) : Prop :=
  Ty.parse a.signature = .ok r.type

/-- What a method keeps. -/
structure Method.Resolves (m : Method) (r : ResolvedMethod) : Prop where
  name : r.name = m.name
  doc : r.doc = m.doc
  inputs : Forall₂ Argument.Resolves m.inputs r.inputs
  outputs : Forall₂ Argument.Resolves m.outputs r.outputs

/-- What a signal keeps. -/
structure Signal.Resolves (g : Signal) (r : ResolvedSignal) : Prop where
  name : r.name = g.name
  doc : r.doc = g.doc
  arguments : Forall₂ Argument.Resolves g.arguments r.arguments

/-- What a property keeps. -/
structure Property.Resolves (p : Property) (r : ResolvedProperty) : Prop where
  name : r.name = p.name
  doc : r.doc = p.doc
  access : r.access = p.access
  type : Ty.parse p.signature = .ok r.type

/-- What an interface keeps. -/
structure Interface.Resolves (i : Interface) (r : ResolvedInterface) : Prop where
  name : r.name = i.name
  doc : r.doc = i.doc
  typeName : r.typeName = Bindings.typeName i.name
  snakeName : r.snakeName = snakeCase (Bindings.typeName i.name)
  methods : Forall₂ Method.Resolves i.methods r.methods
  signals : Forall₂ Signal.Resolves i.signals r.signals
  properties : Forall₂ Property.Resolves i.properties r.properties

namespace Resolve

theorem typeOf_eq_ok_iff {interface member spelling : String} {t : Ty} :
    typeOf interface member spelling = .ok t ↔ Ty.parse spelling = .ok t := by
  unfold typeOf
  split
  · next h => simp [h]
  · next h => simp [h]

theorem arguments_resolve {interface member : String} :
    ∀ {args : List Argument} {index : Nat} {s s' : Scope} {rs : List ResolvedArgument},
      arguments interface member index s args = .ok (rs, s') → Forall₂ Argument.Resolves args rs
  | [], _, _, _, _, h => by cases h; exact .nil
  | a :: args, index, s, s', rs, h => by
    rw [arguments, bind_eq_ok_iff] at h
    obtain ⟨t, ht, h⟩ := h
    obtain ⟨⟨rest, s₁⟩, hrest, h⟩ := bind_eq_ok_iff.1 h
    cases h
    exact .cons (typeOf_eq_ok_iff.1 ht) (arguments_resolve hrest)

theorem methods_resolve {interface : String} :
    ∀ {ms : List Method} {s s' : Scopes} {rs : List ResolvedMethod},
      methods interface s ms = .ok (rs, s') → Forall₂ Method.Resolves ms rs
  | [], _, _, _, h => by cases h; exact .nil
  | m :: ms, s, s', rs, h => by
    rw [methods, bind_eq_ok_iff] at h
    obtain ⟨⟨inputs, s₁⟩, hi, h⟩ := h
    obtain ⟨⟨outputs, s₂⟩, ho, h⟩ := bind_eq_ok_iff.1 h
    obtain ⟨⟨rest, s₃⟩, hrest, h⟩ := bind_eq_ok_iff.1 h
    cases h
    exact .cons ⟨rfl, rfl, arguments_resolve hi, arguments_resolve ho⟩ (methods_resolve hrest)

theorem signals_resolve {interface snakeName : String} :
    ∀ {gs : List Signal} {s s' : Scopes} {rs : List ResolvedSignal},
      signals interface snakeName s gs = .ok (rs, s') → Forall₂ Signal.Resolves gs rs
  | [], _, _, _, h => by cases h; exact .nil
  | g :: gs, s, s', rs, h => by
    rw [signals, bind_eq_ok_iff] at h
    obtain ⟨⟨args, s₁⟩, ha, h⟩ := h
    obtain ⟨⟨rest, s₂⟩, hrest, h⟩ := bind_eq_ok_iff.1 h
    cases h
    exact .cons ⟨rfl, rfl, arguments_resolve ha⟩ (signals_resolve hrest)

theorem properties_resolve {interface : String} :
    ∀ {ps : List Property} {s s' : Scopes} {rs : List ResolvedProperty},
      properties interface s ps = .ok (rs, s') → Forall₂ Property.Resolves ps rs
  | [], _, _, _, h => by cases h; exact .nil
  | p :: ps, s, s', rs, h => by
    rw [properties, bind_eq_ok_iff] at h
    obtain ⟨t, ht, h⟩ := h
    obtain ⟨⟨rest, s₁⟩, hrest, h⟩ := bind_eq_ok_iff.1 h
    cases h
    exact .cons ⟨rfl, rfl, rfl, typeOf_eq_ok_iff.1 ht⟩ (properties_resolve hrest)

/-! ### Success -/

/-- Whether a signature spells one type. -/
def Spells (spelling : String) : Prop :=
  ∃ t, Ty.parse spelling = .ok t

theorem arguments_succeeds (interface member : String) {args : List Argument}
    (h : ∀ a ∈ args, Spells a.signature) (index : Nat) (s : Scope) :
    ∃ x, arguments interface member index s args = .ok x := by
  induction args generalizing index s with
  | nil => exact ⟨_, rfl⟩
  | cons a args ih =>
    obtain ⟨t, ht⟩ := h a (List.mem_cons_self ..)
    obtain ⟨rest, hrest⟩ := ih (fun b hb => h b (List.mem_cons_of_mem _ hb)) (index + 1)
      (s.argument a.name index).2
    exact ⟨_, bind_eq_ok_iff.2 ⟨t, typeOf_eq_ok_iff.2 ht, bind_eq_ok_iff.2 ⟨rest, hrest, rfl⟩⟩⟩

theorem methods_succeeds (interface : String) {ms : List Method}
    (h : ∀ m ∈ ms, ∀ a ∈ m.inputs ++ m.outputs, Spells a.signature) (s : Scopes) :
    ∃ x, methods interface s ms = .ok x := by
  induction ms generalizing s with
  | nil => exact ⟨_, rfl⟩
  | cons m ms ih =>
    have hm := h m (List.mem_cons_self ..)
    obtain ⟨inputs, hi⟩ := arguments_succeeds interface m.name
      (fun a ha => hm a (List.mem_append_left _ ha)) 0 .ofArguments
    obtain ⟨outputs, ho⟩ := arguments_succeeds interface m.name
      (fun a ha => hm a (List.mem_append_right _ ha)) 0 inputs.2
    obtain ⟨rest, hrest⟩ := ih (fun n hn => h n (List.mem_cons_of_mem _ hn))
      { s with
        handler := (s.handler.ident (snakeCase m.name)).2
        proxy := (s.proxy.ident (snakeCase m.name)).2 }
    exact ⟨_, bind_eq_ok_iff.2 ⟨inputs, hi, bind_eq_ok_iff.2 ⟨outputs, ho,
      bind_eq_ok_iff.2 ⟨rest, hrest, rfl⟩⟩⟩⟩

theorem signals_succeeds (interface snakeName : String) {gs : List Signal}
    (h : ∀ g ∈ gs, ∀ a ∈ g.arguments, Spells a.signature) (s : Scopes) :
    ∃ x, signals interface snakeName s gs = .ok x := by
  induction gs generalizing s with
  | nil => exact ⟨_, rfl⟩
  | cons g gs ih =>
    obtain ⟨args, ha⟩ := arguments_succeeds interface g.name (h g (List.mem_cons_self ..)) 0
      .ofArguments
    obtain ⟨rest, hrest⟩ := ih (fun n hn => h n (List.mem_cons_of_mem _ hn))
      { s with
        proxy := (s.proxy.claim ("watch_" ++ snakeCase g.name)).2
        emitter := (s.emitter.ident ("emit_" ++ snakeCase g.name)).2 }
    exact ⟨_, bind_eq_ok_iff.2 ⟨args, ha, bind_eq_ok_iff.2 ⟨rest, hrest, rfl⟩⟩⟩

theorem properties_succeeds (interface : String) {ps : List Property}
    (h : ∀ p ∈ ps, Spells p.signature) (s : Scopes) :
    ∃ x, properties interface s ps = .ok x := by
  induction ps generalizing s with
  | nil => exact ⟨_, rfl⟩
  | cons p ps ih =>
    let snake := snakeCase p.name
    let get := identIf p.access.isReadable s.proxy ("get_" ++ snake)
    obtain ⟨t, ht⟩ := h p (List.mem_cons_self ..)
    obtain ⟨rest, hrest⟩ := ih (fun n hn => h n (List.mem_cons_of_mem _ hn))
      { s with
        fields := (s.fields.ident snake).2
        proxy := (identIf p.access.isWritable get.2 ("set_" ++ snake)).2
        handler := (identIf p.access.isWritable s.handler ("on_set_" ++ snake)).2 }
    exact ⟨_, bind_eq_ok_iff.2 ⟨t, typeOf_eq_ok_iff.2 ht, bind_eq_ok_iff.2 ⟨rest, hrest, rfl⟩⟩⟩

end Resolve

/-- The parts that a resolved interface is made of, and what each leaves of the scopes for the
next. -/
theorem resolve_eq_ok_iff {i : Interface} {r : ResolvedInterface} :
    resolve i = .ok r ↔ ∃ ms s gs s' ps s'',
      Resolve.methods i.name {} i.methods = .ok (ms, s) ∧
      Resolve.signals i.name (snakeCase (typeName i.name)) s i.signals = .ok (gs, s') ∧
      Resolve.properties i.name s' i.properties = .ok (ps, s'') ∧
      r = ⟨i.name, i.doc, typeName i.name, snakeCase (typeName i.name), ms, gs, ps⟩ := by
  unfold resolve
  simp only [bind_eq_ok_iff]
  constructor
  · rintro ⟨⟨ms, s⟩, hm, ⟨gs, s'⟩, hg, ⟨ps, s''⟩, hp, h⟩
    cases h
    exact ⟨ms, s, gs, s', ps, s'', hm, hg, hp, rfl⟩
  · rintro ⟨ms, s, gs, s', ps, s'', hm, hg, hp, rfl⟩
    exact ⟨(ms, s), hm, (gs, s'), hg, (ps, s''), hp, rfl⟩

theorem resolve_resolves {i : Interface} {r : ResolvedInterface} (h : resolve i = .ok r) :
    i.Resolves r := by
  obtain ⟨ms, s, gs, s', ps, s'', hm, hg, hp, rfl⟩ := resolve_eq_ok_iff.1 h
  -- the names are equal as they stand, and must not be computed
  exact ⟨rfl, rfl, by dsimp only, by dsimp only, Resolve.methods_resolve hm,
    Resolve.signals_resolve hg, Resolve.properties_resolve hp⟩

/-- The lists of arguments of an interface: inputs and outputs of its methods, and the arguments of
its signals. -/
def Interface.argumentLists (i : Interface) : List (List Argument) :=
  i.methods.flatMap (fun m => [m.inputs, m.outputs]) ++ i.signals.map (·.arguments)

theorem mem_argumentLists {i : Interface} {args : List Argument} :
    args ∈ i.argumentLists ↔
      (∃ m ∈ i.methods, args = m.inputs ∨ args = m.outputs) ∨
        ∃ g ∈ i.signals, args = g.arguments := by
  simp [Interface.argumentLists, eq_comm]

/-- The lists of arguments of a resolved interface. -/
def ResolvedInterface.argumentLists (i : ResolvedInterface) : List (List ResolvedArgument) :=
  i.methods.flatMap (fun m => [m.inputs, m.outputs]) ++ i.signals.map (·.arguments)

theorem argumentLists_resolve {i : Interface} {r : ResolvedInterface} (h : i.Resolves r) :
    Forall₂ (Forall₂ Argument.Resolves) i.argumentLists r.argumentLists := by
  refine List.rel_append ?_ ?_
  · exact List.rel_flatMap h.methods fun m r hm => .cons hm.inputs (.cons hm.outputs .nil)
  · exact List.rel_map (fun s r hs => hs.arguments) h.signals

/-- An interface is resolved when each of its signatures spells one type. -/
theorem exists_resolve_iff {i : Interface} :
    (∃ r, resolve i = .ok r) ↔
      (∀ args ∈ i.argumentLists, ∀ a ∈ args, ∃ t, Ty.parse a.signature = .ok t) ∧
        ∀ p ∈ i.properties, ∃ t, Ty.parse p.signature = .ok t := by
  constructor
  · rintro ⟨r, h⟩
    have hi := resolve_resolves h
    refine ⟨fun args hargs a ha => ?_, fun p hp => ?_⟩
    · obtain ⟨rs, _, hrs⟩ := exists_right (argumentLists_resolve hi) hargs
      obtain ⟨b, _, hb⟩ := exists_right hrs ha
      exact ⟨b.type, hb⟩
    · obtain ⟨q, _, hq⟩ := exists_right hi.properties hp
      exact ⟨q.type, hq.type⟩
  · rintro ⟨hargs, hprops⟩
    have hmethods : ∀ m ∈ i.methods, ∀ a ∈ m.inputs ++ m.outputs, Resolve.Spells a.signature := by
      intro m hm a ha
      rcases List.mem_append.1 ha with ha | ha
      · exact hargs _ (mem_argumentLists.2 (.inl ⟨m, hm, .inl rfl⟩)) a ha
      · exact hargs _ (mem_argumentLists.2 (.inl ⟨m, hm, .inr rfl⟩)) a ha
    have hsignals : ∀ g ∈ i.signals, ∀ a ∈ g.arguments, Resolve.Spells a.signature :=
      fun g hg => hargs _ (mem_argumentLists.2 (.inr ⟨g, hg, rfl⟩))
    obtain ⟨ms, hm⟩ := Resolve.methods_succeeds i.name hmethods {}
    obtain ⟨gs, hg⟩ := Resolve.signals_succeeds i.name (snakeCase (typeName i.name)) hsignals ms.2
    obtain ⟨ps, hp⟩ := Resolve.properties_succeeds i.name hprops gs.2
    exact ⟨_, resolve_eq_ok_iff.2 ⟨ms.1, ms.2, gs.1, gs.2, ps.1, ps.2, hm, hg, hp, rfl⟩⟩

end DBus.Bindings
