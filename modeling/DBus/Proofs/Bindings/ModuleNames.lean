import Mathlib
import DBus.Proofs.Bindings.Code
import DBus.Proofs.Bindings.Generated
import DBus.Proofs.Bindings.Resolve
import DBus.Proofs.Bindings.Scope

/-!
# Names of the module

What the units of some documents define side by side when they are put into one module. The types of
an interface are called after it, and no two kinds of types have names that end alike. The functions
that read signals are called after the interface too, but an interface and a signal may be spelled
together like another interface and another signal.
-/

namespace DBus.Bindings

open Code

/-! ### What the code of an interface defines -/

/-- The functions beside the proxy of an interface, which read signals. -/
def decoders (i : ResolvedInterface) : List Ident :=
  i.signals.map (·.decode) ++ if i.properties.isEmpty then [] else [Proxy.changesName i]

theorem defines_proxy (rt : String) (i : ResolvedInterface) :
    defines (Proxy.code rt i).result = .plain (i.typeName ++ "Proxy") :: decoders i := by
  have hmethods : i.methods.flatMap (fun m => defines (Proxy.method rt m).result.beside) = [] := by
    simp [Proxy.method]
  have hsignals : i.signals.flatMap (fun s => defines (Proxy.signal rt s).result.beside)
      = i.signals.map (·.decode) := by
    simp [Proxy.signal, List.map_eq_flatMap]
  have hany : defines (Proxy.anyProperty rt).result.beside = [] := rfl
  have hproperties : i.properties.flatMap
      (fun p => defines (Proxy.property rt p).result.beside) = [] := by
    simp [Proxy.result_property]
  have hall : defines (Proxy.allProperties rt i).result.beside = [Proxy.changesName i] := by
    simp [Proxy.allProperties, Proxy.decodeChanges]
  have hsections : (Proxy.sections rt i).result.flatMap (fun part => defines part.beside)
      = decoders i := by
    rw [Proxy.result_sections, decoders]
    split <;> simp [List.flatMap_map, hmethods, hsignals, hany, hproperties, hall]
  simp [Proxy.code, Proxy.name, hsections]

theorem defines_propertiesCode (rt : String) (i : ResolvedInterface) :
    defines (Generate.propertiesCode rt i).result =
      if i.properties.isEmpty then [] else [.plain (i.typeName ++ "Properties")] := by
  unfold Generate.propertiesCode
  split <;> simp [PropertiesStruct.code, PropertiesStruct.name]

theorem defines_handler (rt : String) (i : ResolvedInterface) :
    defines (Handler.code rt i).result =
      [.plain (i.typeName ++ "Methods"), .plain (i.typeName ++ "Handler"),
        .plain (i.typeName ++ "Emitter")] := by
  simp [Handler.code, Handler.traitCode, Handler.structCode, Handler.emitterCode,
    Handler.traitName, Handler.name, Handler.emitterName]

/-- What the names of the types end with that an interface has in a mode. -/
def typeEndings (i : ResolvedInterface) (mode : Mode) : List String :=
  (if i.properties.isEmpty || !(mode.meets .proxy || mode.meets .handler) then []
    else ["Properties"])
    ++ (if mode.meets .proxy then ["Proxy"] else [])
    ++ if mode.meets .handler then ["Methods", "Handler", "Emitter"] else []

/-- The types that the units of an interface define, and the functions that read signals. -/
def moduleNames (i : ResolvedInterface) (mode : Mode) : List Ident :=
  (typeEndings i mode).map (fun e => .plain (i.typeName ++ e))
    ++ if mode.meets .proxy then decoders i else []

theorem defines_unitsOf (rt : String) (i : ResolvedInterface) (mode : Mode) :
    ((Generate.unitsOf rt i mode).flatMap fun u => defines u.inModule).Perm
      (moduleNames i mode) := by
  rw [Generate.unitsOf_eq_append]
  unfold moduleNames typeEndings
  cases hp : mode.meets .proxy <;> cases hh : mode.meets .handler <;>
    cases he : i.properties.isEmpty <;>
    simp [CodeUnit.inModule, defines_proxy, defines_propertiesCode, defines_handler, he]
  all_goals exact List.perm_append_comm

/-! ### The functions that read signals -/

/-- A name that begins with a word and an underscore is no keyword. -/
theorem ofName_append {word : String} (name : String) (h : '_' ∈ word.toList)
    (hlen : 1 < word.length) : Ident.ofName (word ++ name) = .plain (word ++ name) := by
  have hmem : '_' ∈ (word ++ name).toList := by simp [h]
  have hnever : word ++ name ∉ neverIdents := by
    intro hw
    have hshort : ∀ w ∈ neverIdents, '_' ∈ w.toList → w.length = 1 := by decide
    have := hshort _ hw hmem
    rw [String.length_append] at this
    omega
  have hkeyword : word ++ name ∉ keywords := fun hw =>
    (by decide +kernel : ∀ w ∈ keywords, '_' ∉ w.toList) _ hw hmem
  simp [Ident.ofName, hnever, hkeyword, Ident.plain]

theorem ofName_decode (snakeName x : String) :
    Ident.ofName ("decode_" ++ snakeName ++ "_" ++ x)
      = .plain ("decode_" ++ (snakeName ++ "_" ++ x)) := by
  have : "decode_" ++ snakeName ++ "_" ++ x = "decode_" ++ (snakeName ++ "_" ++ x) := by
    simp [String.append_assoc]
  rw [this]
  exact ofName_append _ (by decide) (by decide)

theorem behind_append (beginning text : String) :
    Resolve.behind beginning (beginning ++ text) = text := by
  simp [Resolve.behind, ← String.length_toList]

namespace Resolve

variable {interface : String}

/-- Methods take names for the proxy, and give none back. -/
theorem taken_subset_methods : ∀ {ms : List Method} {s s' : Scopes} {rs : List ResolvedMethod},
    methods interface s ms = .ok (rs, s') → s.proxy.taken ⊆ s'.proxy.taken
  | [], s, s', rs, h => by
    cases h
    exact List.Subset.refl _
  | m :: ms, s, s', rs, h => by
    rw [methods, bind_eq_ok_iff] at h
    obtain ⟨⟨inputs, s₁⟩, hi, h⟩ := h
    obtain ⟨⟨outputs, s₂⟩, ho, h⟩ := bind_eq_ok_iff.1 h
    obtain ⟨⟨rest, s₃⟩, hrest, h⟩ := bind_eq_ok_iff.1 h
    cases h
    exact fun x hx => taken_subset_methods hrest (List.mem_cons_of_mem _ hx)

/-- The functions of signals are called after distinct names, none of which makes a function of the
proxy that was taken before. -/
theorem signals_watched {snakeName : String} {gs : List Signal} {s s' : Scopes}
    {rs : List ResolvedSignal} (h : signals interface snakeName s gs = .ok (rs, s')) :
    ∃ xs : List String, xs.Nodup ∧ (∀ x ∈ xs, "watch_" ++ x ∉ s.proxy.taken) ∧
      rs.map (·.watch) = xs.map (fun x => .plain ("watch_" ++ x)) ∧
      rs.map (·.decode) = xs.map (fun x => .plain ("decode_" ++ (snakeName ++ "_" ++ x))) := by
  induction gs generalizing s s' rs with
  | nil =>
    cases h
    exact ⟨[], List.nodup_nil, by simp, rfl, rfl⟩
  | cons g gs ih =>
    rw [signals, bind_eq_ok_iff] at h
    obtain ⟨⟨args, s₁⟩, ha, h⟩ := h
    obtain ⟨⟨rest, s₂⟩, hrest, h⟩ := bind_eq_ok_iff.1 h
    cases h
    obtain ⟨xs, hnodup, hfree, hwatch, hdecode⟩ := ih hrest
    obtain ⟨tail, htail⟩ := s.proxy.claim_eq_append ("watch_" ++ snakeCase g.name)
    have hclaim : (s.proxy.claim ("watch_" ++ snakeCase g.name)).1
        = "watch_" ++ (snakeCase g.name ++ tail) := by
      rw [htail, String.append_assoc]
    have hnew := s.proxy.claim_not_mem ("watch_" ++ snakeCase g.name)
    rw [hclaim] at hnew
    have hfree : ∀ x ∈ xs, x ≠ snakeCase g.name ++ tail ∧ "watch_" ++ x ∉ s.proxy.taken := by
      intro x hx
      have hx : "watch_" ++ x ∉ (s.proxy.claim ("watch_" ++ snakeCase g.name)).1 :: s.proxy.taken :=
        hfree x hx
      rw [hclaim, List.mem_cons, not_or] at hx
      exact ⟨fun h => hx.1 (by rw [h]), hx.2⟩
    refine ⟨(snakeCase g.name ++ tail) :: xs, ?_, ?_, ?_, ?_⟩
    · exact List.nodup_cons.2 ⟨fun hx => (hfree _ hx).1 rfl, hnodup⟩
    · intro x hx
      rcases List.mem_cons.1 hx with rfl | hx
      · exact hnew
      · exact (hfree x hx).2
    · rw [List.map_cons, List.map_cons, hwatch, hclaim, ofName_append _ (by decide) (by decide)]
    · rw [List.map_cons, List.map_cons, hdecode, hclaim, behind_append, ofName_decode]

end Resolve

/-- What the functions that watch the signals of an interface, and the changes of its properties, are
called. -/
def ResolvedInterface.watched (i : ResolvedInterface) : List String :=
  i.signals.map (fun s => Resolve.behind "watch_" s.watch.text)
    ++ if i.properties.isEmpty then [] else ["properties_changed"]

/-- The functions that read signals are called after the interface and what is watched. -/
theorem decoders_of_resolve {i : Interface} {r : ResolvedInterface} (h : resolve i = .ok r) :
    r.watched.Nodup ∧
      decoders r = r.watched.map fun x => .plain ("decode_" ++ (r.snakeName ++ "_" ++ x)) := by
  obtain ⟨ms, s, gs, s', ps, s'', hm, hg, hp, rfl⟩ := resolve_eq_ok_iff.1 h
  obtain ⟨xs, hnodup, hfree, hwatch, hdecode⟩ := Resolve.signals_watched hg
  have hwatched : gs.map (fun s => Resolve.behind "watch_" s.watch.text) = xs := by
    have := congrArg (List.map fun w : Ident => Resolve.behind "watch_" w.text) hwatch
    simpa [Function.comp_def, Ident.plain, behind_append] using this
  have hchanged : "properties_changed" ∉ xs := fun hx =>
    hfree _ hx (Resolve.taken_subset_methods hm (by decide))
  simp only [ResolvedInterface.watched, decoders, hwatched, hdecode]
  split
  · exact ⟨by simpa using hnodup, by simp⟩
  · refine ⟨hnodup.append (List.nodup_singleton _) (List.disjoint_singleton.2 hchanged), ?_⟩
    have hjoin : "_properties_changed" = "_" ++ "properties_changed" := by decide
    simp [Proxy.changesName, hjoin, String.append_assoc]

/-! ### Types and functions -/

/-- Whether a name begins with a lower case letter. -/
def beginsLower (name : String) : Bool :=
  name.toList.head?.any Char.isLower

theorem head_capitalized : ∀ cs : List Char,
    (capitalized true cs).head?.any Char.isLower = false
  | [] => rfl
  | c :: cs => by
    unfold capitalized
    split
    · exact head_capitalized cs
    · split
      · simp
      · exact head_capitalized cs

/-- Types begin with a capital, or an underscore. -/
theorem beginsLower_typeName (interface : String) {ending : String}
    (h : beginsLower ending = false) : beginsLower (typeName interface ++ ending) = false := by
  have hcap := head_capitalized interface.toList
  unfold beginsLower typeName at *
  rw [String.toList_append, String.toList_ofList]
  cases hcs : capitalized true interface.toList with
  | nil => simpa [notDigitFirst] using h
  | cons c cs =>
    rw [hcs] at hcap
    simp only [notDigitFirst]
    split <;> simp_all

/-- The ends of the names of types. -/
def endings : List String := ["Properties", "Proxy", "Methods", "Handler", "Emitter"]

/-- A name tells which of the ends it has. -/
theorem append_ending_inj {a b d e : String} (hd : d ∈ endings) (he : e ∈ endings)
    (h : a ++ d = b ++ e) : a = b ∧ d = e := by
  have hlist : a.toList ++ d.toList = b.toList ++ e.toList := by
    simpa using congrArg String.toList h
  have hapart : ∀ x ∈ endings, ∀ y ∈ endings, x.toList <:+ y.toList → x = y := by decide
  have hde : d = e := by
    rcases List.suffix_or_suffix_of_suffix (hlist ▸ List.suffix_append _ _)
      (List.suffix_append b.toList e.toList) with hs | hs
    · exact hapart d hd e he hs
    · exact (hapart e he d hd hs).symm
  subst hde
  exact ⟨String.toList_inj.1 (List.append_cancel_right hlist), rfl⟩

theorem typeEndings_sublist (i : ResolvedInterface) (mode : Mode) :
    (typeEndings i mode).Sublist endings := by
  unfold typeEndings
  split <;> split <;> split <;> decide

section Resolved

variable {i j : Interface} {a b : ResolvedInterface} {m n : Mode}

theorem mem_moduleNames (h : resolve i = .ok a) {name : Ident} :
    name ∈ moduleNames a m ↔
      (∃ e ∈ typeEndings a m, name = .plain (a.typeName ++ e)) ∨
        m.meets .proxy = true ∧
          ∃ x ∈ a.watched, name = .plain ("decode_" ++ (a.snakeName ++ "_" ++ x)) := by
  rw [moduleNames, List.mem_append, (decoders_of_resolve h).2, List.mem_map]
  refine or_congr (exists_congr fun e => and_congr_right fun _ => eq_comm) ?_
  split
  · next hm =>
    rw [List.mem_map]
    exact ⟨fun ⟨x, hx, hn⟩ => ⟨hm, x, hx, hn.symm⟩, fun ⟨_, x, hx, hn⟩ => ⟨x, hx, hn.symm⟩⟩
  · next hm => exact ⟨nofun, fun h => absurd h.1 hm⟩

theorem beginsLower_decode (x : String) : beginsLower ("decode_" ++ x) = true := by
  rw [beginsLower, String.toList_append]
  rfl

/-- No type of an interface is called like a name that begins with a lower case letter. -/
theorem typeName_ne (h : resolve i = .ok a) {e name : String} (he : e ∈ typeEndings a m)
    (hname : beginsLower name = true) : Ident.plain (a.typeName ++ e) ≠ .plain name := by
  intro heq
  have hlow : ∀ e ∈ endings, beginsLower e = false := by decide
  have htext : a.typeName ++ e = name := congrArg Ident.text heq
  rw [← htext, (resolve_resolves h).typeName,
    beginsLower_typeName _ (hlow e ((typeEndings_sublist a m).subset he))] at hname
  cases hname

/-- What the units of an interface define has names of its own. -/
theorem moduleNames_nodup (h : resolve i = .ok a) : (moduleNames a m).Nodup := by
  obtain ⟨hwatched, hdecoders⟩ := decoders_of_resolve h
  have htypes : ((typeEndings a m).map fun e => Ident.plain (a.typeName ++ e)).Nodup := by
    refine ((typeEndings_sublist a m).nodup (by decide)).map fun d e hde => ?_
    exact (String.append_right_inj _).1 (congrArg Ident.text hde)
  have hdec : (decoders a).Nodup := by
    rw [hdecoders]
    refine hwatched.map fun x y hxy => ?_
    exact (String.append_right_inj _).1 ((String.append_right_inj _).1 (congrArg Ident.text hxy))
  unfold moduleNames
  split
  · refine htypes.append hdec fun name ht hd => ?_
    obtain ⟨e, he, rfl⟩ := List.mem_map.1 ht
    rw [hdecoders] at hd
    obtain ⟨x, hx, heq⟩ := List.mem_map.1 hd
    exact typeName_ne h he (beginsLower_decode _) heq.symm
  · simpa using htypes

/-- Two interfaces whose types are called differently define different names, unless they have a
function for a signal in common. -/
theorem disjoint_moduleNames_iff (ha : resolve i = .ok a) (hb : resolve j = .ok b)
    (hne : a.typeName ≠ b.typeName) :
    List.Disjoint (moduleNames a m) (moduleNames b n) ↔
      (m.meets .proxy = true → n.meets .proxy = true → ∀ x ∈ a.watched, ∀ y ∈ b.watched,
        a.snakeName ++ "_" ++ x ≠ b.snakeName ++ "_" ++ y) := by
  constructor
  · intro h hm hn x hx y hy heq
    refine h ((mem_moduleNames ha).2 (.inr ⟨hm, x, hx, rfl⟩))
      ((mem_moduleNames hb).2 (.inr ⟨hn, y, hy, ?_⟩))
    rw [heq]
  · intro h name hna hnb
    rcases (mem_moduleNames ha).1 hna with ⟨d, hd, rfl⟩ | ⟨hm, x, hx, rfl⟩
    · rcases (mem_moduleNames hb).1 hnb with ⟨e, he, heq⟩ | ⟨-, y, -, heq⟩
      · exact hne (append_ending_inj ((typeEndings_sublist a m).subset hd)
          ((typeEndings_sublist b n).subset he) (congrArg Ident.text heq)).1
      · exact typeName_ne ha hd (beginsLower_decode _) heq
    · rcases (mem_moduleNames hb).1 hnb with ⟨e, he, heq⟩ | ⟨hn, y, hy, heq⟩
      · exact typeName_ne hb he (beginsLower_decode _) heq.symm
      · exact h hm hn x hx y hy ((String.append_right_inj _).1 (congrArg Ident.text heq))

/-- The modules of routines are called like nothing that an interface defines. -/
theorem routines_not_mem (h : resolve i = .ok a) {name : String}
    (hname : name = "readers" ∨ name = "writers") : .plain name ∉ moduleNames a m := by
  intro hmem
  have hlow : beginsLower name = true := by rcases hname with rfl | rfl <;> decide
  rcases (mem_moduleNames h).1 hmem with ⟨e, he, heq⟩ | ⟨-, x, -, heq⟩
  · exact typeName_ne h he hlow heq.symm
  · have hhead : name.toList.head? = ("decode_" ++ (a.snakeName ++ "_" ++ x)).toList.head? :=
      congrArg (fun n => n.text.toList.head?) heq
    rw [String.toList_append] at hhead
    rcases hname with rfl | rfl <;> cases hhead

end Resolved

/-! ### The module -/

section Module

variable (documents : List (Document × Mode)) (crate : String)

theorem defines_module :
    (defines (generate documents crate).module).Perm
      ((Generate.resolved (merge documents)).flatMap (fun r => moduleNames r.1 r.2)
        ++ [.plain "readers", .plain "writers"]) := by
  rw [Generated.module, units_generate, List.flatMap_append, defines_append]
  refine .append ?_ (.of_eq rfl)
  rw [defines_flatMap, List.flatMap_assoc]
  exact .flatMap_left _ fun r _ => defines_unitsOf _ _ _

/-- The module defines each name once just when no two interfaces with proxies have functions for
signals that are called the same. -/
theorem defines_module_nodup_iff
    (h : (Generate.resolved (merge documents)).Pairwise fun a b => a.1.typeName ≠ b.1.typeName) :
    (defines (generate documents crate).module).Nodup ↔
      (Generate.resolved (merge documents)).Pairwise fun a b =>
        a.2.meets .proxy = true → b.2.meets .proxy = true →
          ∀ x ∈ a.1.watched, ∀ y ∈ b.1.watched,
            a.1.snakeName ++ "_" ++ x ≠ b.1.snakeName ++ "_" ++ y := by
  have hroutines : List.Disjoint
      ((Generate.resolved (merge documents)).flatMap fun r => moduleNames r.1 r.2)
      [.plain "readers", .plain "writers"] := by
    intro name hname hroutine
    obtain ⟨r, hr, hname⟩ := List.mem_flatMap.1 hname
    obtain ⟨i, hi⟩ := Generate.exists_resolve_of_mem hr
    obtain ⟨text, htext, heq⟩ : ∃ text, (text = "readers" ∨ text = "writers") ∧ name = .plain text := by
      simpa using hroutine
    exact routines_not_mem hi htext (heq ▸ hname)
  have hnodup : ∀ r ∈ Generate.resolved (merge documents), (moduleNames r.1 r.2).Nodup := by
    intro r hr
    obtain ⟨i, hi⟩ := Generate.exists_resolve_of_mem hr
    exact moduleNames_nodup hi
  have hpair : ∀ {a b : ResolvedInterface × Mode}, a ∈ Generate.resolved (merge documents) →
      b ∈ Generate.resolved (merge documents) → a.1.typeName ≠ b.1.typeName →
      (List.Disjoint (moduleNames a.1 a.2) (moduleNames b.1 b.2) ↔
        (a.2.meets .proxy = true → b.2.meets .proxy = true → ∀ x ∈ a.1.watched, ∀ y ∈ b.1.watched,
          a.1.snakeName ++ "_" ++ x ≠ b.1.snakeName ++ "_" ++ y)) := by
    intro a b ha hb hne
    obtain ⟨i, hi⟩ := Generate.exists_resolve_of_mem ha
    obtain ⟨j, hj⟩ := Generate.exists_resolve_of_mem hb
    exact disjoint_moduleNames_iff hi hj hne
  rw [(defines_module documents crate).nodup_iff, List.nodup_append', List.nodup_flatMap]
  constructor
  · rintro ⟨⟨-, hdisjoint⟩, -, -⟩
    exact (h.and hdisjoint).imp_of_mem fun ha hb hab => (hpair ha hb hab.1).1 hab.2
  · intro hapart
    refine ⟨⟨hnodup, ?_⟩, by decide, hroutines⟩
    exact (h.and hapart).imp_of_mem fun ha hb hab => (hpair ha hb hab.1).2 hab.2

end Module

/-- A document with two interfaces of one signal each. -/
def twoSignals (interface signal interface' signal' : String) : List (Document × Mode) :=
  [(⟨[⟨interface, [], [⟨signal, [], none⟩], [], none⟩,
    ⟨interface', [], [⟨signal', [], none⟩], [], none⟩]⟩, .proxy)]

theorem defines_module_nodup_apart :
    (defines (generate (twoSignals "Foo" "BarBaz" "Bar" "Baz") "tokio_dbus").module).Nodup :=
  (defines_module_nodup_iff _ _ (by decide +kernel)).2 (by decide +kernel)

/-- The function that reads the signal of `Foo` is called like that of `Foo.Bar`. -/
theorem defines_module_not_nodup :
    (Generate.resolved (merge (twoSignals "Foo" "BarBaz" "Foo.Bar" "Baz"))).Pairwise
        (fun a b => a.1.typeName ≠ b.1.typeName) ∧
      ¬(defines (generate (twoSignals "Foo" "BarBaz" "Foo.Bar" "Baz") "tokio_dbus").module).Nodup := by
  refine ⟨by decide +kernel, ?_⟩
  rw [(defines_module _ _).nodup_iff]
  decide +kernel

end DBus.Bindings
