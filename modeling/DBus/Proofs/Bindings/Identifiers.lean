import DBus.Proofs.Bindings.Ends
import DBus.Proofs.Bindings.ModuleNames
import DBus.Proofs.Bindings.SnakeCase

/-!
# Identifiers that stand side by side

The functions of a proxy, of an emitter and of a trait, the fields of a struct, the functions that
read signals, and the arguments of a member: whatever the names in an interface, no two identifiers
of one item are spelled alike, and no two are written alike when those that are keywords are marked
as raw.
-/

namespace DBus.Bindings

/-- A name that identifiers can be spelled like: it is not empty, and has nothing in it of the mark
before raw identifiers. -/
structure Spellable (name : String) : Prop where
  ne_empty : name ≠ ""
  unmarked : '#' ∉ name.toList

namespace Spellable

theorem append_right {name : String} (h : Spellable name) {rest : String}
    (hrest : '#' ∉ rest.toList) : Spellable (name ++ rest) where
  ne_empty := fun he => h.ne_empty (String.append_eq_empty_iff.1 he).1
  unmarked := by simpa [h.unmarked] using hrest

theorem append_left {name : String} (h : Spellable name) {beginning : String}
    (hbeginning : '#' ∉ beginning.toList) : Spellable (beginning ++ name) where
  ne_empty := fun he => h.ne_empty (String.append_eq_empty_iff.1 he).2
  unmarked := by simpa [h.unmarked] using hbeginning

end Spellable

/-! ### Names in snake case -/

theorem snakeCase_spellable (name : String) : Spellable (snakeCase name) where
  ne_empty := (snakeCase_isSnake name).ne_empty
  unmarked := fun h => absurd ((snakeCase_isSnake name).chars '#' h) (by decide)

/-- What an argument without a name is called. -/
theorem arg_spellable (index : Nat) : Spellable ("arg" ++ toString index) := by
  refine Spellable.append_right ⟨by decide, by decide⟩ fun h => ?_
  rw [Nat.toString_eq_repr, Nat.toList_repr] at h
  exact absurd (Nat.isDigit_of_mem_toDigits (by decide) (by decide) h) (by decide)

/-! ### Claiming names -/

/-- No word that identifiers are not spelled like comes from another by an underscore. -/
theorem append_not_mem_neverIdents {name : String} (h : name ≠ "") :
    name ++ "_" ∉ neverIdents := by
  intro hmem
  have hends : ∀ w ∈ neverIdents, ['_'] <:+ w.toList → w = "_" := by decide
  have hname := congrArg String.toList (hends _ hmem (by simp))
  exact h (by simpa using hname)

namespace Scope

/-- What is kept when an underscore is added to a name is kept until the name is free. -/
theorem freshen_induction {motive : String → Prop}
    (append : ∀ name, motive name → motive (name ++ "_")) (taken : List String) (tries : Nat)
    {name : String} (h : motive name) : motive (freshen taken tries name) := by
  induction tries generalizing name with
  | zero => exact h
  | succ tries ih =>
    rw [freshen]
    split
    · exact ih (append name h)
    · exact h

variable (s : Scope) {name : String}

/-- A name that is claimed can be the spelling of an identifier. -/
theorem claim_spellable (h : Spellable name) :
    Spellable (s.claim name).1 ∧ (s.claim name).1 ∉ neverIdents := by
  have append : ∀ n, Spellable n ∧ n ∉ neverIdents →
      Spellable (n ++ "_") ∧ n ++ "_" ∉ neverIdents := fun n hn =>
    ⟨hn.1.append_right (by decide), append_not_mem_neverIdents hn.1.ne_empty⟩
  refine freshen_induction append _ _ ?_
  split
  · exact ⟨h.append_right (by decide), append_not_mem_neverIdents h.ne_empty⟩
  · next hn => exact ⟨h, by simpa using hn⟩

theorem ofName_text (h : name ∉ neverIdents) : (Ident.ofName name).text = name := by
  unfold Ident.ofName
  rw [if_neg (by simpa using h)]
  split <;> rfl

/-- Identifiers that are taken in a scope one after the other. -/
inductive Takes : Scope → List Ident → Scope → Prop where
  | nil (s : Scope) : Takes s [] s
  | cons {s s' : Scope} {name : String} {ids : List Ident} (h : Spellable name)
      (rest : Takes (s.ident name).2 ids s') : Takes s ((s.ident name).1 :: ids) s'

namespace Takes

variable {s s' s'' : Scope} {ids more : List Ident}

theorem trans (h : Takes s ids s') (hmore : Takes s' more s'') : Takes s (ids ++ more) s'' := by
  induction h with
  | nil s => exact hmore
  | cons h _ ih => exact .cons h (ih hmore)

theorem text_ident (s : Scope) {name : String} (h : Spellable name) :
    (s.ident name).1.text = (s.claim name).1 :=
  ofName_text (s.claim_spellable h).2

theorem unmarked (h : Takes s ids s') : ∀ id ∈ ids, '#' ∉ id.text.toList := by
  induction h with
  | nil s => exact List.forall_mem_nil _
  | @cons s _ _ _ h _ ih =>
    refine List.forall_mem_cons.2 ⟨?_, ih⟩
    rw [text_ident s h]
    exact (s.claim_spellable h).1.unmarked

/-- No identifier is spelled like one that was taken before. -/
theorem not_mem_taken (h : Takes s ids s') : ∀ id ∈ ids, id.text ∉ s.taken := by
  induction h with
  | nil s => exact List.forall_mem_nil _
  | @cons s _ name _ h _ ih =>
    refine List.forall_mem_cons.2 ⟨?_, fun id hid hmem => ih id hid (List.mem_cons_of_mem _ hmem)⟩
    rw [text_ident s h]
    exact s.claim_not_mem name

theorem nodup (h : Takes s ids s') : (ids.map (·.text)).Nodup := by
  induction h with
  | nil s => exact List.nodup_nil
  | @cons s _ name ids h rest ih =>
    refine List.nodup_cons.2 ⟨fun hmem => ?_, ih⟩
    obtain ⟨id, hid, heq⟩ := List.mem_map.1 hmem
    refine rest.not_mem_taken id hid ?_
    have htaken : (s.ident name).1.text ∈ (s.ident name).2.taken := by
      rw [text_ident s h]
      exact List.mem_cons_self ..
    exact heq ▸ htaken

end Takes

end Scope

/-! ### Identifiers apart -/

/-- Identifiers no two of which are spelled alike, or written alike. -/
structure Apart (ids : List Ident) : Prop where
  spelled : (ids.map (·.text)).Nodup
  written : (ids.map (·.print)).Nodup

theorem text_eq_of_print_eq {a b : Ident} (ha : '#' ∉ a.text.toList) (hb : '#' ∉ b.text.toList)
    (h : a.print = b.print) : a.text = b.text := by
  have hmark : ∀ text : String, '#' ∈ ("r#" ++ text).toList := fun text => by simp
  unfold Ident.print at h
  split at h <;> split at h
  · exact (String.append_right_inj _).1 h
  · exact absurd (h ▸ hmark a.text) hb
  · exact absurd (h ▸ hmark b.text) ha
  · exact h

namespace Apart

variable {ids : List Ident}

theorem of_unmarked (h : (ids.map (·.text)).Nodup) (hmark : ∀ id ∈ ids, '#' ∉ id.text.toList) :
    Apart ids := by
  refine ⟨h, List.pairwise_map.2 ((List.pairwise_map.1 h).imp_of_mem fun ha hb hne heq => ?_)⟩
  exact hne (text_eq_of_print_eq (hmark _ ha) (hmark _ hb) heq)

theorem of_takes (words : List String) (hwords : words.Nodup)
    (hmark : ∀ w ∈ words, '#' ∉ w.toList) {s : Scope} (h : Scope.Takes ⟨words⟩ ids s) :
    Apart (words.map .plain ++ ids) := by
  have htexts : (words.map Ident.plain).map (·.text) = words := by
    simp [Function.comp_def, Ident.plain]
  refine of_unmarked ?_ ?_
  · rw [List.map_append, htexts]
    refine hwords.append h.nodup fun w hw hmem => ?_
    obtain ⟨id, hid, rfl⟩ := List.mem_map.1 hmem
    exact h.not_mem_taken id hid hw
  · intro id hid
    rcases List.mem_append.1 hid with hid | hid
    · obtain ⟨w, hw, rfl⟩ := List.mem_map.1 hid
      exact hmark w hw
    · exact h.unmarked id hid

theorem plain {names : List String} (h : names.Nodup) : Apart (names.map .plain) := by
  constructor <;> simpa [Function.comp_def, Ident.plain, Ident.print] using h

theorem of_subperm (h : Apart ids) {some : List Ident} (hsome : some.Subperm ids) :
    Apart some := by
  obtain ⟨l, hperm, hsub⟩ := hsome
  exact ⟨(hperm.map _).nodup_iff.1 ((hsub.map _).nodup h.spelled),
    (hperm.map _).nodup_iff.1 ((hsub.map _).nodup h.written)⟩

end Apart

/-! ### Members -/

namespace Resolve

open Scope (Takes)

/-- Identifiers that are taken in each scope of an interface. -/
structure Scopes.Takes (s : Scopes) (proxy emitter handler fields : List Ident) (s' : Scopes) :
    Prop where
  proxy : s.proxy.Takes proxy s'.proxy
  emitter : s.emitter.Takes emitter s'.emitter
  handler : s.handler.Takes handler s'.handler
  fields : s.fields.Takes fields s'.fields

/-- The scope of the arguments of a member lets each have an identifier of its own. -/
theorem argument_takes (s : Scope) (name : Option String) (index : Nat) :
    s.Takes [(s.argument name index).1] (s.argument name index).2 := by
  unfold Scope.argument
  split
  · split
    · exact .cons (arg_spellable index) (.nil _)
    · exact .cons (snakeCase_spellable _) (.nil _)
  · exact .cons (arg_spellable index) (.nil _)

theorem arguments_take {interface member : String} :
    ∀ {args : List Argument} {index : Nat} {s s' : Scope} {rs : List ResolvedArgument},
      arguments interface member index s args = .ok (rs, s') → s.Takes (rs.map (·.ident)) s'
  | [], _, _, _, _, h => by cases h; exact .nil _
  | a :: args, index, s, s', rs, h => by
    rw [arguments, bind_eq_ok_iff] at h
    obtain ⟨t, ht, h⟩ := h
    obtain ⟨⟨rest, s₁⟩, hrest, h⟩ := bind_eq_ok_iff.1 h
    cases h
    exact (argument_takes s a.name index).trans (arguments_take hrest)

/-- No two arguments of a member are alike, and none is like a local of generated code. -/
def ArgumentsApart (args : List ResolvedArgument) : Prop :=
  Apart (reservedLocals.map .plain ++ args.map (·.ident))

theorem argumentsApart_of_takes {args : List ResolvedArgument} {s : Scope}
    (h : Scope.ofArguments.Takes (args.map (·.ident)) s) : ArgumentsApart args :=
  .of_takes _ (by decide) (by decide) h

variable {interface : String}

theorem methods_take : ∀ {ms : List Method} {s s' : Scopes} {rs : List ResolvedMethod},
    methods interface s ms = .ok (rs, s') →
      s.Takes (rs.map (·.call)) [] (rs.map (·.handle)) [] s' ∧
        ∀ r ∈ rs, ArgumentsApart (r.inputs ++ r.outputs)
  | [], _, _, _, h => by
    cases h
    exact ⟨⟨.nil _, .nil _, .nil _, .nil _⟩, List.forall_mem_nil _⟩
  | m :: ms, s, s', rs, h => by
    rw [methods, bind_eq_ok_iff] at h
    obtain ⟨⟨inputs, s₁⟩, hi, h⟩ := h
    obtain ⟨⟨outputs, s₂⟩, ho, h⟩ := bind_eq_ok_iff.1 h
    obtain ⟨⟨rest, s₃⟩, hrest, h⟩ := bind_eq_ok_iff.1 h
    cases h
    obtain ⟨htakes, hapart⟩ := methods_take hrest
    have hsnake := snakeCase_spellable m.name
    have hargs : Scope.ofArguments.Takes ((inputs ++ outputs).map (·.ident)) s₂ := by
      rw [List.map_append]
      exact (arguments_take hi).trans (arguments_take ho)
    exact ⟨⟨.cons hsnake htakes.proxy, htakes.emitter, .cons hsnake htakes.handler, htakes.fields⟩,
      List.forall_mem_cons.2 ⟨argumentsApart_of_takes hargs, hapart⟩⟩

theorem signals_take {snakeName : String} :
    ∀ {gs : List Signal} {s s' : Scopes} {rs : List ResolvedSignal},
      signals interface snakeName s gs = .ok (rs, s') →
        s.Takes (rs.map (·.watch)) (rs.map (·.emit)) [] [] s' ∧
          ∀ r ∈ rs, ArgumentsApart r.arguments
  | [], _, _, _, h => by
    cases h
    exact ⟨⟨.nil _, .nil _, .nil _, .nil _⟩, List.forall_mem_nil _⟩
  | g :: gs, s, s', rs, h => by
    rw [signals, bind_eq_ok_iff] at h
    obtain ⟨⟨args, s₁⟩, ha, h⟩ := h
    obtain ⟨⟨rest, s₂⟩, hrest, h⟩ := bind_eq_ok_iff.1 h
    cases h
    obtain ⟨htakes, hapart⟩ := signals_take hrest
    have hsnake := snakeCase_spellable g.name
    exact ⟨⟨.cons (hsnake.append_left (by decide)) htakes.proxy,
        .cons (hsnake.append_left (by decide)) htakes.emitter, htakes.handler, htakes.fields⟩,
      List.forall_mem_cons.2 ⟨argumentsApart_of_takes (arguments_take ha), hapart⟩⟩

theorem identIf_takes (need : Bool) (s : Scope) {name : String} (h : Spellable name) :
    s.Takes (identIf need s name).1.toList (identIf need s name).2 := by
  cases need with
  | false => exact .nil s
  | true => exact .cons h (.nil _)

theorem properties_take : ∀ {ps : List Property} {s s' : Scopes} {rs : List ResolvedProperty},
    properties interface s ps = .ok (rs, s') →
      s.Takes (rs.flatMap fun p => p.get.toList ++ p.set.toList) []
        (rs.flatMap (·.onSet.toList)) (rs.map (·.field)) s'
  | [], _, _, _, h => by cases h; exact ⟨.nil _, .nil _, .nil _, .nil _⟩
  | p :: ps, s, s', rs, h => by
    rw [properties, bind_eq_ok_iff] at h
    obtain ⟨t, ht, h⟩ := h
    obtain ⟨⟨rest, s₁⟩, hrest, h⟩ := bind_eq_ok_iff.1 h
    cases h
    have htakes := properties_take hrest
    have hsnake := snakeCase_spellable p.name
    refine ⟨?_, htakes.emitter, ?_, .cons hsnake htakes.fields⟩
    · exact ((identIf_takes _ _ (hsnake.append_left (by decide))).trans
        (identIf_takes _ _ (hsnake.append_left (by decide)))).trans htakes.proxy
    · exact (identIf_takes _ _ (hsnake.append_left (by decide))).trans htakes.handler

end Resolve

/-! ### Items -/

namespace ResolvedInterface

/-- The functions of the proxy that come from members. -/
def proxyNames (i : ResolvedInterface) : List Ident :=
  i.methods.map (·.call) ++ i.signals.map (·.watch)
    ++ i.properties.flatMap fun p => p.get.toList ++ p.set.toList

/-- The functions of the trait of the handler. -/
def traitNames (i : ResolvedInterface) : List Ident :=
  i.methods.map (·.handle) ++ i.properties.flatMap (·.onSet.toList)

/-- The identifiers of an interface are apart in each item that they stand in: with the functions
that every proxy and every emitter has, and for arguments with the locals of generated code. -/
structure NamesApart (i : ResolvedInterface) : Prop where
  proxy : Apart (Resolve.proxyFunctions.map .plain ++ i.proxyNames)
  emitter : Apart (Resolve.emitterFunctions.map .plain ++ i.signals.map (·.emit))
  trait : Apart i.traitNames
  fields : Apart (i.properties.map (·.field))
  decoders : Apart (decoders i)
  methods : ∀ m ∈ i.methods, Resolve.ArgumentsApart (m.inputs ++ m.outputs)
  signals : ∀ s ∈ i.signals, Resolve.ArgumentsApart s.arguments

end ResolvedInterface

theorem resolve_namesApart {i : Interface} {r : ResolvedInterface} (h : resolve i = .ok r) :
    r.NamesApart := by
  have hdecoders : Apart (decoders r) := by
    obtain ⟨hnodup, heq⟩ := decoders_of_resolve h
    have hnames : (r.watched.map fun x => "decode_" ++ (r.snakeName ++ "_" ++ x)).Nodup :=
      hnodup.map fun x y hxy => (String.append_right_inj _).1 ((String.append_right_inj _).1 hxy)
    have hplain := Apart.plain hnames
    rw [List.map_map] at hplain
    rw [heq]
    exact hplain
  obtain ⟨ms, s, gs, s', ps, s'', hm, hg, hp, rfl⟩ := resolve_eq_ok_iff.1 h
  obtain ⟨hmethods, hinputs⟩ := Resolve.methods_take hm
  obtain ⟨hsignals, harguments⟩ := Resolve.signals_take hg
  have hproperties := Resolve.properties_take hp
  refine ⟨?_, ?_, ?_, ?_, hdecoders, hinputs, harguments⟩
  · exact .of_takes _ (by decide) (by decide)
      ((hmethods.proxy.trans hsignals.proxy).trans hproperties.proxy)
  · have htakes := (hmethods.emitter.trans hsignals.emitter).trans hproperties.emitter
    rw [List.nil_append, List.append_nil] at htakes
    exact .of_takes _ (by decide) (by decide) htakes
  · have htakes := (hmethods.handler.trans hsignals.handler).trans hproperties.handler
    rw [List.append_nil] at htakes
    exact .of_takes [] .nil (List.forall_mem_nil _) htakes
  · exact .of_takes [] .nil (List.forall_mem_nil _)
      ((hmethods.fields.trans hsignals.fields).trans hproperties.fields)

namespace Code

/-- What stands in the braces of code, but not what stands in braces inside of them: the bodies of
items and functions. -/
def bodies (c : Code) : List Code :=
  c.filterMap fun
    | .group .brace body => some body
    | _ => none

@[simp] theorem bodies_nil : bodies [] = [] := rfl

@[simp] theorem bodies_append (c d : Code) : bodies (c ++ d) = bodies c ++ bodies d :=
  List.filterMap_append

@[simp] theorem bodies_fixed (text : String) (c : Code) : bodies (.fixed text :: c) = bodies c :=
  rfl

@[simp] theorem bodies_define (name : Ident) (c : Code) : bodies (.define name :: c) = bodies c :=
  rfl

@[simp] theorem bodies_use (name : Ident) (c : Code) : bodies (.use name :: c) = bodies c := rfl

@[simp] theorem bodies_brace (body c : Code) : bodies (brace body :: c) = body :: bodies c := rfl

@[simp] theorem bodies_doc (text : String) : bodies (doc text) = [] := rfl

@[simp] theorem bodies_flatMap {α : Type} (f : α → Code) (xs : List α) :
    bodies (xs.flatMap f) = xs.flatMap fun x => bodies (f x) :=
  List.filterMap_flatMap

@[simp] theorem defines_paren (body c : Code) : defines (paren body :: c) = defines c := rfl

@[simp] theorem defines_literal (text : String) (c : Code) :
    defines (.literal text :: c) = defines c := rfl

@[simp] theorem defines_remark (line : String) : defines (remark line) = [] := rfl

@[simp] theorem defines_call (d : Direction) (name : String) : defines (call d name) = [] := rfl

end Code

section Items

open Code (bodies defines)

variable {rt : String} {i : ResolvedInterface}

theorem Apart.nil : Apart [] := ⟨.nil, .nil⟩

theorem defines_fromMessage (message : String) (args : List ResolvedArgument) :
    defines (Arguments.fromMessage message args).result = args.map (·.ident) := by
  cases args with
  | nil => rfl
  | cons a args =>
    simp [Arguments.fromMessage, Arguments.readLocals, List.map_eq_flatMap]

theorem apart_arguments {args : List ResolvedArgument} (h : Resolve.ArgumentsApart args) :
    Apart (args.map (·.ident)) :=
  h.of_subperm (List.sublist_append_right ..).subperm

/-- The functions of a proxy are among those that every proxy may have and those of its members. -/
theorem defines_functions :
    (defines (Proxy.opening rt i.name ++ (Proxy.sections rt i).result.flatMap (·.functions))).Subperm
      (Resolve.proxyFunctions.map .plain ++ i.proxyNames) := by
  have hproperty : ∀ p,
      defines (Proxy.property rt p).result.functions = p.get.toList ++ p.set.toList := by
    intro p
    cases hget : p.get <;> cases hset : p.set <;>
      simp [Proxy.result_property, Proxy.getter, Proxy.setter, hget, hset]
  have hopening : defines (Proxy.opening rt i.name)
      = [.plain "new", .plain "transport", .plain "path"] := by
    simp [Proxy.opening]
  have hmethods : i.methods.flatMap (fun m => defines (Proxy.method rt m).result.functions)
      = i.methods.map (·.call) := by
    simp [Proxy.method, List.map_eq_flatMap]
  have hsignals : i.signals.flatMap (fun s => defines (Proxy.signal rt s).result.functions)
      = i.signals.map (·.watch) := by
    simp [Proxy.signal, Proxy.watch, List.map_eq_flatMap]
  have hany : defines (Proxy.anyProperty rt).result.functions
      = [.plain "get_property_variant", .plain "set_property_variant"] := by
    simp [Proxy.anyProperty, Proxy.anyGetter, Proxy.anySetter]
  have hall : defines (Proxy.allProperties rt i).result.functions
      = [.plain "get_all_properties", .plain "watch_properties_changed"] := by
    simp [Proxy.allProperties, Proxy.allGetter, Proxy.watchChanges]
  rw [Code.defines_append, Code.defines_flatMap, hopening]
  refine List.subperm_ext_iff.2 fun name _ => ?_
  rw [Proxy.result_sections, ResolvedInterface.proxyNames]
  split
  · next h =>
    simp only [List.flatMap_append, List.flatMap_map, hmethods, hsignals, Resolve.proxyFunctions,
      List.isEmpty_iff.1 h, List.flatMap_nil, List.map_cons, List.map_nil, List.count_append,
      List.count_cons, List.count_nil]
    omega
  · simp only [List.flatMap_append, List.flatMap_cons, List.flatMap_map, hmethods, hsignals,
      hproperty, hany, hall, Resolve.proxyFunctions, List.map_cons, List.map_nil, List.count_append,
      List.count_cons, List.count_nil, List.flatMap_nil]
    omega

/-- The functions that read signals bind the arguments of their signals, which are apart. -/
theorem bodies_beside_apart (h : i.NamesApart) {part : Proxy.Section}
    (hpart : part ∈ (Proxy.sections rt i).result) :
    ∀ body ∈ bodies part.beside, Apart (defines body) := by
  rcases Proxy.mem_sections.1 hpart with ⟨m, hm, rfl⟩ | ⟨s, hs, rfl⟩ | ⟨-, rfl | ⟨p, hp, rfl⟩ | rfl⟩
  · simp [Proxy.method]
  · have hbodies : bodies (Proxy.signal rt s).result.beside
        = [(Arguments.fromMessage "message" s.arguments).result] := by
      simp [Proxy.signal]
    rw [hbodies, List.forall_mem_singleton, defines_fromMessage]
    exact apart_arguments (h.signals s hs)
  · exact List.forall_mem_nil _
  · simp [Proxy.result_property]
  · have hbodies : (bodies (Proxy.allProperties rt i).result.beside).map defines = [[]] := by
      simp [Proxy.allProperties, Proxy.decodeChanges]
    intro body hbody
    have hnone : defines body ∈ [[]] := hbodies ▸ List.mem_map_of_mem hbody
    rw [List.mem_singleton.1 hnone]
    exact .nil

theorem bodies_proxy_apart (h : i.NamesApart) :
    ∀ body ∈ bodies (Proxy.code rt i).result, Apart (defines body) := by
  intro body hbody
  have hbodies : bodies (Proxy.code rt i).result
      = [[.fixed ("transport : T , destination : Option < String > , path : " ++ rt
            ++ " :: ObjectPathBuf ,")],
          Proxy.opening rt i.name ++ (Proxy.sections rt i).result.flatMap (·.functions)]
        ++ (Proxy.sections rt i).result.flatMap fun part => bodies part.beside := by
    simp [Proxy.code]
  rw [hbodies, List.mem_append, List.mem_cons, List.mem_singleton] at hbody
  rcases hbody with (rfl | rfl) | hbody
  · exact .nil
  · exact h.proxy.of_subperm defines_functions
  · obtain ⟨part, hpart, hbody⟩ := List.mem_flatMap.1 hbody
    exact bodies_beside_apart h hpart body hbody

theorem bodies_properties_apart (h : i.NamesApart) :
    ∀ body ∈ bodies (PropertiesStruct.code rt i).result, Apart (defines body) := by
  have hfields : defines ((PropertiesStruct.readable i).flatMap (PropertiesStruct.field rt))
      = (PropertiesStruct.readable i).map (·.field) := by
    simp [PropertiesStruct.field, List.map_eq_flatMap]
  have hsub : ((PropertiesStruct.readable i).map (·.field)).Subperm (i.properties.map (·.field)) :=
    (List.filter_sublist.map _).subperm
  have hplain : Apart [.plain "from_variants", .plain "to_variants"] :=
    Apart.plain (by decide : ["from_variants", "to_variants"].Nodup)
  simp [PropertiesStruct.code, hfields, hplain, h.fields.of_subperm hsub]

theorem bodies_trait_apart (h : i.NamesApart) :
    ∀ body ∈ bodies (Handler.traitCode rt i), Apart (defines body) := by
  have honSet : ∀ p, defines (Handler.traitOnSet rt p) = p.onSet.toList := by
    intro p
    unfold Handler.traitOnSet
    split
    · next hset => simp [hset]
    · next hset => simp [hset]
  have hnames : defines (i.methods.flatMap (Handler.traitMethod rt)
      ++ i.properties.flatMap (Handler.traitOnSet rt)) = i.traitNames := by
    simp [Handler.traitMethod, honSet, ResolvedInterface.traitNames, List.map_eq_flatMap]
  simp [Handler.traitCode, hnames, h.trait]

theorem bodies_struct_apart :
    ∀ body ∈ bodies (Handler.structCode rt i).result, Apart (defines body) := by
  have hdispatch : defines (Handler.dispatch rt i).result = [] := by
    unfold Handler.dispatch
    split <;> simp
  have hproperties : defines (Handler.propertyFunctions rt i).result = [] := by
    simp [Handler.propertyFunctions]
  unfold Handler.structCode
  split <;> simp [hdispatch, hproperties, Apart.nil]

theorem bodies_emitter_apart (h : i.NamesApart) :
    ∀ body ∈ bodies (Handler.emitterCode rt i).result, Apart (defines body) := by
  have hemit : i.signals.flatMap (fun s => defines (Handler.emit rt s).result)
      = i.signals.map (·.emit) := by
    simp [Handler.emit, List.map_eq_flatMap]
  have hsub :
      (.plain "new" :: (i.signals.map (·.emit) ++ defines (Handler.emitChanges rt i))).Subperm
        (Resolve.emitterFunctions.map .plain ++ i.signals.map (·.emit)) := by
    refine List.subperm_ext_iff.2 fun name _ => ?_
    unfold Handler.emitChanges
    split
    · simp only [Resolve.emitterFunctions, Code.defines_nil, List.map_cons, List.map_nil,
        List.count_append, List.count_cons, List.count_nil]
      omega
    · simp only [Resolve.emitterFunctions, Code.defines_append, Code.defines_remark,
        Code.defines_fixed, Code.defines_define, Code.defines_paren, Code.defines_brace,
        Code.defines_nil, List.map_cons, List.map_nil, List.count_append, List.count_cons,
        List.count_nil]
      omega
  simp [Handler.emitterCode, hemit, Apart.nil, h.emitter.of_subperm hsub]

theorem bodies_unitsOf_apart (h : i.NamesApart) {mode : Mode} :
    ∀ u ∈ Generate.unitsOf rt i mode, ∀ body ∈ bodies u.code, Apart (defines body) := by
  have hproperties : ∀ body ∈ bodies (Generate.propertiesCode rt i).result, Apart (defines body) := by
    unfold Generate.propertiesCode
    split
    · exact List.forall_mem_nil _
    · exact bodies_properties_apart h
  have hhandler : ∀ body ∈ bodies (Handler.code rt i).result, Apart (defines body) := by
    rw [handler_eq]
    simp only [Code.bodies_append, List.forall_mem_append]
    exact ⟨⟨bodies_trait_apart h, bodies_struct_apart⟩, bodies_emitter_apart h⟩
  rw [Generate.unitsOf_eq_append]
  cases mode.meets .proxy <;> cases mode.meets .handler <;>
    simp only [Bool.false_eq_true, if_true, if_false, List.nil_append, List.append_nil,
      List.forall_mem_append, List.forall_mem_singleton, Code.bodies_append]
  · exact List.forall_mem_nil _
  · exact ⟨hproperties, hhandler⟩
  · exact ⟨hproperties, bodies_proxy_apart h⟩
  · exact ⟨⟨hproperties, bodies_proxy_apart h⟩, hhandler⟩

end Items

/-- Whatever names the members and arguments of an interface have, the identifiers in each item that
is generated for it are apart. -/
theorem resolve_identifiers_apart {i : Interface} {r : ResolvedInterface} (h : resolve i = .ok r) :
    r.NamesApart ∧ ∀ rt mode, ∀ u ∈ Generate.unitsOf rt r mode, ∀ body ∈ u.code.bodies,
      Apart body.defines :=
  ⟨resolve_namesApart h, fun _ _ => bodies_unitsOf_apart (resolve_namesApart h)⟩

/-- An interface whose names are empty, repeated, keywords, words that no identifier is spelled
like, or names of what is generated. -/
def collidingInterface : Interface where
  name := ""
  methods := [⟨"Self", [⟨some "type", "s"⟩, ⟨some "Type", "s"⟩, ⟨none, "s"⟩], [⟨some "value", "s"⟩],
      none⟩,
    ⟨"GetSelf", [⟨some "arg0", "s"⟩, ⟨some "", "s"⟩], [⟨none, "s"⟩], none⟩, ⟨"", [], [], none⟩,
    ⟨"OnSetSelf", [], [], none⟩, ⟨"new", [], [], none⟩]
  signals := [⟨"", [], none⟩, ⟨"é", [⟨some "body", "s"⟩], none⟩, ⟨"PropertiesChanged", [], none⟩]
  properties := [⟨"Self", "s", .readWrite, none⟩, ⟨"self", "s", .readWrite, none⟩,
    ⟨"for", "s", .read, none⟩, ⟨"For", "s", .write, none⟩]
  doc := none

theorem collidingInterface_apart :
    ∃ r, resolve collidingInterface = .ok r ∧ r.NamesApart ∧
      ∀ rt mode, ∀ u ∈ Generate.unitsOf rt r mode, ∀ body ∈ u.code.bodies, Apart body.defines := by
  have hstring : Ty.parse "s" = .ok (.basic .string) := by decide +kernel
  obtain ⟨r, hr⟩ : ∃ r, resolve collidingInterface = .ok r :=
    exists_resolve_iff.2 (by simp [collidingInterface, Interface.argumentLists, hstring])
  exact ⟨r, hr, resolve_identifiers_apart hr⟩

example : (resolve collidingInterface).toOption.map (fun r => r.traitNames.map (·.print)) =
    some ["self_", "get_self", "__", "on_set_self", "new", "on_set_self_", "on_set_self__",
      "on_set_for"] := by decide +kernel

end DBus.Bindings
