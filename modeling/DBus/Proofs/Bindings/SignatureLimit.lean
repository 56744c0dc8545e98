import DBus.Proofs.Bindings.Generated
import DBus.Proofs.Bindings.Resolve
import DBus.Proofs.Bindings.Signatures
import DBus.Proofs.Signature.Joining
import Mathlib.Algebra.GroupWithZero.Nat

/-!
# Which generated signatures are accepted

Resolving an interface reads the signature of each argument on its own, but messages carry the
signatures of a list of arguments as one. Types that are well-formed stay so in a list, so the limit
on the length is all that such a signature can break: it is accepted when the signatures it is made
of have at most 255 bytes together.
-/

namespace DBus.Bindings

open List (Forall₂)
open Signature (ofTypes_isOk_iff ofTypes_too_long)

/-- The number of bytes of the signatures of some arguments. -/
def signatureSize (args : List Argument) : Nat :=
  (args.map fun a => a.signature.utf8ByteSize).sum

theorem utf8ByteSize_join (ss : List String) :
    (String.join ss).utf8ByteSize = (ss.map String.utf8ByteSize).sum := by
  induction ss with
  | nil => rfl
  | cons s ss ih => simp [ih]

/-! ### One list of arguments -/

section Arguments

variable {args : List Argument} {rs : List ResolvedArgument}

theorem Argument.Resolves.wellFormed {a : Argument} {r : ResolvedArgument} (h : a.Resolves r) :
    a.signature = r.type.signature ∧ r.type.WellFormed := by
  have hp := Ty.parseAll_sound (Ty.parse_eq_ok_iff.1 h)
  refine ⟨?_, hp.2.2 _ (List.mem_singleton_self _)⟩
  rw [← hp.2.1, Ty.signatureOf_singleton]

theorem wellFormed_of_resolves (h : Forall₂ Argument.Resolves args rs) :
    ∀ t ∈ typesOf rs, t.WellFormed := by
  induction h with
  | nil => intro t ht; cases ht
  | cons ha _ ih =>
    intro t ht
    rcases List.mem_cons.1 ht with rfl | ht
    · exact ha.wellFormed.2
    · exact ih t ht

theorem signatureOf_resolves (h : Forall₂ Argument.Resolves args rs) :
    (Ty.signatureOf (typesOf rs)).utf8ByteSize = signatureSize args := by
  have hmap : (typesOf rs).map Ty.signature = args.map (·.signature) := by
    induction h with
    | nil => rfl
    | cons ha _ ih => simp_all [typesOf, ha.wellFormed.1]
  rw [Ty.signatureOf_eq_join, hmap, utf8ByteSize_join, List.map_map]
  rfl

/-- The signature of resolved arguments is accepted when it is short enough. -/
theorem ofTypes_resolves (h : Forall₂ Argument.Resolves args rs) :
    (Signature.ofTypes (typesOf rs)).isOk = true ↔ signatureSize args ≤ 255 := by
  rw [ofTypes_isOk_iff, signatureOf_resolves h]
  exact ⟨fun h => h.1, fun hlen => ⟨hlen, wellFormed_of_resolves h⟩⟩

end Arguments

/-! ### All lists of an interface -/

section Resolved

variable {i : Interface} {r : ResolvedInterface}

/-- The signatures of properties are accepted, as each is read on its own. -/
theorem ofTypes_property (h : i.Resolves r) {p : ResolvedProperty} (hp : p ∈ r.properties) :
    (Signature.ofTypes [p.type]).isOk = true := by
  obtain ⟨q, _, hq⟩ := exists_left h.properties hp
  obtain ⟨hlen, hs, hwf⟩ := Ty.parseAll_sound (Ty.parse_eq_ok_iff.1 hq.type)
  rw [ofTypes_isOk_iff, hs]
  exact ⟨hlen, hwf⟩

/-- All lists of arguments have accepted signatures just when none has more than 255 bytes of
them. -/
theorem ofTypes_argumentLists (h : i.Resolves r) :
    (∀ rs ∈ r.argumentLists, (Signature.ofTypes (typesOf rs)).isOk = true) ↔
      ∀ args ∈ i.argumentLists, signatureSize args ≤ 255 := by
  have hlists := argumentLists_resolve h
  constructor
  · intro hall args hargs
    obtain ⟨rs, hrs, hres⟩ := exists_right hlists hargs
    exact (ofTypes_resolves hres).1 (hall rs hrs)
  · intro hall rs hrs
    obtain ⟨args, hargs, hres⟩ := exists_left hlists hrs
    exact (ofTypes_resolves hres).2 (hall args hargs)

theorem unitsOf_signatures_accepted (h : i.Resolves r) (rt : String) {mode : Mode}
    (hm : mode.meets .proxy = true ∨ mode.meets .handler = true) :
    (∀ u ∈ Generate.unitsOf rt r mode, ∀ ts ∈ Code.signatures u.code,
        (Signature.ofTypes ts).isOk = true) ↔
      ∀ rs ∈ r.argumentLists, (Signature.ofTypes (typesOf rs)).isOk = true := by
  constructor
  · intro hall rs hrs
    by_cases hne : rs = []
    · rw [hne]
      decide
    · obtain ⟨u, hu, hts⟩ := typesOf_mem_unitsOf rt hm hrs hne
      exact hall u hu _ hts
  · intro hall u hu ts hts
    rcases has_of_mem_unitsOf hu hts with ⟨rs, hrs, rfl⟩ | ⟨p, hp, rfl⟩
    · exact hall rs hrs
    · exact ofTypes_property h hp

/-- An interface is resolved when each of its signatures spells one type. All signatures in the units
that are then generated for it are accepted just when no list of arguments has more than 255 bytes of
signatures, which nothing looks at. -/
theorem resolved_signatures_accepted_iff (i : Interface) :
    ((∃ r, resolve i = .ok r) ↔
      (∀ args ∈ i.argumentLists, ∀ a ∈ args, ∃ t, Ty.parse a.signature = .ok t) ∧
        ∀ p ∈ i.properties, ∃ t, Ty.parse p.signature = .ok t) ∧
    ∀ (r : ResolvedInterface) (rt : String) (mode : Mode), resolve i = .ok r →
      mode.meets .proxy = true ∨ mode.meets .handler = true →
      ((∀ u ∈ Generate.unitsOf rt r mode, ∀ ts ∈ Code.signatures u.code,
          (Signature.ofTypes ts).isOk = true) ↔
        ∀ args ∈ i.argumentLists, signatureSize args ≤ 255) := by
  refine ⟨exists_resolve_iff, fun r rt mode h hm => ?_⟩
  rw [unitsOf_signatures_accepted (resolve_resolves h) rt hm,
    ofTypes_argumentLists (resolve_resolves h)]

end Resolved

/-- An interface with a method whose arguments are short. -/
def narrowInterface : Interface where
  name := "org.example.Narrow"
  methods := [⟨"Put", [⟨none, "(ii)"⟩], [⟨none, "s"⟩], none⟩]
  signals := []
  properties := []
  doc := none

theorem narrowInterface_accepted :
    ∃ r, resolve narrowInterface = .ok r ∧
      ∀ u ∈ Generate.unitsOf "tokio_dbus" r .proxy, ∀ ts ∈ Code.signatures u.code,
        (Signature.ofTypes ts).isOk = true := by
  have hpair : Ty.parse "(ii)" = .ok (.struct [.basic .int32, .basic .int32]) := by decide +kernel
  have hstring : Ty.parse "s" = .ok (.basic .string) := by decide +kernel
  obtain ⟨hresolve, haccepted⟩ := resolved_signatures_accepted_iff narrowInterface
  obtain ⟨r, hr⟩ := hresolve.2
    ⟨by simp [narrowInterface, Interface.argumentLists, hpair, hstring], nofun⟩
  refine ⟨r, hr, (haccepted r "tokio_dbus" .proxy hr (.inl (by decide))).2 ?_⟩
  decide +kernel

/-- A struct of 126 bytes, whose signature has 128 characters. -/
def wideType : Ty := .struct (List.replicate 126 (.basic .byte))

/-- An interface with a method that takes two such structs. -/
def wideInterface : Interface where
  name := "org.example.Wide"
  methods := [⟨"Put", List.replicate 2 ⟨none, wideType.signature⟩, [], none⟩]
  signals := []
  properties := []
  doc := none

theorem parse_wideType : Ty.parse wideType.signature = .ok wideType := by
  rw [Ty.parse_eq_ok_iff, Ty.parseAll_eq_ok_iff, Ty.signatureOf_singleton]
  exact ⟨by decide +kernel, rfl, by decide +kernel⟩

/-- Code is generated for that interface without an error, but a signature in it is refused. -/
theorem wideInterface_refused :
    (generate [(⟨[wideInterface]⟩, .proxy)] "tokio_dbus").errors = [] ∧
      ∃ u ∈ (generate [(⟨[wideInterface]⟩, .proxy)] "tokio_dbus").units,
        ∃ ts ∈ Code.signatures u.code, Signature.ofTypes ts = .error .signatureTooLong := by
  obtain ⟨r, hr⟩ : ∃ r, resolve wideInterface = .ok r :=
    exists_resolve_iff.2 ⟨by simp [wideInterface, Interface.argumentLists, parse_wideType], nofun⟩
  have hinputs : List.replicate 2 ⟨none, wideType.signature⟩ ∈ wideInterface.argumentLists :=
    List.mem_cons_self ..
  obtain ⟨rs, hrs, hres⟩ := exists_right (argumentLists_resolve (resolve_resolves hr)) hinputs
  have hlong : 255 < (Ty.signatureOf (typesOf rs)).utf8ByteSize := by
    rw [signatureOf_resolves hres]
    decide +kernel
  have hne : rs ≠ [] := by rintro rfl; cases hres
  have hmode : Mode.proxy.meets .proxy = true ∨ Mode.proxy.meets .handler = true := .inl (by decide)
  obtain ⟨u, hu, hts⟩ := typesOf_mem_unitsOf (runtimePath "tokio_dbus") hmode hrs hne
  have hmerge : merge [(⟨[wideInterface]⟩, .proxy)] = [(wideInterface, .proxy)] := rfl
  have hresolved : Generate.resolved [(wideInterface, .proxy)] = [(r, .proxy)] := by
    simp [Generate.resolved, hr, show Mode.proxy.isEmpty = false from rfl]
  rw [errors_generate, units_generate, hmerge, hresolved, List.flatMap_singleton]
  refine ⟨by simp [Generate.refused, hr], u, ?_, typesOf rs, hts, ofTypes_too_long hlong⟩
  exact List.mem_append_left _ hu

end DBus.Bindings
