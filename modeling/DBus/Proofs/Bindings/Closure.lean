import DBus.Proofs.Bindings.Merging
import DBus.Proofs.Bindings.Requests

/-!
# The routines are those that are called

The proxies and handlers call routines, and routines call others. What is called is there once, and
what is there is called: this makes the generated code complete, without parts that nothing uses.
What is called is read off the code, and what is there comes from the requests that were made along
with it, each bringing the routines that its own calls.
-/

namespace DBus.Bindings

open Code

/-! ### What is called and what is asked for -/

/-- A mode made of the flags with a meaning has units, unless it is empty. -/
theorem Mode.meets_of_mem_named {mode : Mode} (h : mode ∈ named) (hne : mode.isEmpty = false) :
    mode.meets .proxy ∨ mode.meets .handler := by
  revert mode
  decide

theorem mode_mem_named {documents : List (Document × Mode)}
    (h : ∀ d ∈ documents, d.2 ∈ Mode.named) {e : Interface × Mode} (he : e ∈ merge documents) :
    e.2 ∈ Mode.named := by
  rw [← unitedMode_of_mem he]
  refine Mode.unite_mem_named fun m hm => ?_
  obtain ⟨d, hd, rfl⟩ := List.mem_map.1 hm
  exact h d (List.mem_filter.1 hd).1

/-- The routines that the proxies and handlers call. -/
def Generated.calls (g : Generated) : List (Direction × String) :=
  g.bindings.flatMap fun u => Code.calls u.code

section Documents

variable {documents : List (Document × Mode)} {crate : String} {d : Direction} {t : Ty}

theorem answers_generate (h : ∀ d ∈ documents, d.2 ∈ Mode.named) :
    Answers (generate documents crate).calls
      ((Generate.resolved (merge documents)).flatMap fun r =>
        Generate.requestsOf (runtimePath crate) r.1 r.2) := by
  rw [Generated.calls, bindings_generate, List.flatMap_assoc]
  refine .flatMap fun r hr => answers_unitsOf _ _ ?_
  obtain ⟨i, hi, hmode, -⟩ := Generate.mem_resolved.1 hr
  exact Mode.meets_of_mem_named (mode_mem_named h hi) hmode

/-- There are routines for the parts of what the proxies and handlers call. -/
theorem mem_types_generate (h : ∀ d ∈ documents, d.2 ∈ Mode.named) :
    t ∈ (requested documents crate).types d ↔
      ∃ s, (d, routineName d s) ∈ (generate documents crate).calls ∧ t ∈ parts s := by
  rw [requested, Routines.mem_types_requested]
  constructor
  · rintro ⟨⟨d, s⟩, hasked, rfl, ht⟩
    exact ⟨s, (answers_generate h _).2 (List.mem_map_of_mem hasked), ht⟩
  · rintro ⟨s, hcalled, ht⟩
    obtain ⟨⟨d', u⟩, hasked, heq⟩ := List.mem_map.1 ((answers_generate h _).1 hcalled)
    obtain ⟨rfl, hname⟩ := Prod.mk.inj heq
    obtain rfl := routineName_injective d' hname
    exact ⟨_, hasked, rfl, ht⟩

/-- Whatever a proxy or handler calls is the routine for a type. -/
theorem exists_of_mem_calls (h : ∀ d ∈ documents, d.2 ∈ Mode.named) {c : Direction × String}
    (hc : c ∈ (generate documents crate).calls) : ∃ s, c = (c.1, routineName c.1 s) := by
  obtain ⟨⟨d, s⟩, -, rfl⟩ := List.mem_map.1 ((answers_generate h c).1 hc)
  exact ⟨s, rfl⟩

/-! ### Completeness -/

theorem unqualified_of_mem_bindings {u : CodeUnit}
    (hu : u ∈ (generate documents crate).bindings) : unqualified "" u.code = [] := by
  rw [bindings_generate, List.mem_flatMap] at hu
  obtain ⟨r, -, hu⟩ := hu
  exact unqualified_of_mem_unitsOf "" hu

/-- Whether the collection of its direction defines a routine that is called once. -/
def Generated.DefinesOnce (g : Generated) (c : Direction × String) : Prop :=
  (defines (g.routines c.1)).count (.plain c.2) = 1

theorem definesOnce_of_mem (h : t ∈ (requested documents crate).types d) :
    (generate documents crate).DefinesOnce (d, routineName d t) := by
  have hroutines : (generate documents crate).routines d =
      ((requested documents crate).types d).flatMap (Routine.code (runtimePath crate) d) :=
    routines_generate documents crate d
  have hmem : Ident.plain (routineName d t) ∈ defines ((generate documents crate).routines d) := by
    rw [hroutines, defines_flatMap, List.mem_flatMap]
    exact ⟨t, h, by rw [Routine.defines_code]; exact List.mem_cons_self ..⟩
  refine List.count_eq_one_of_mem ?_ hmem
  rw [hroutines]
  exact Routine.nodup_defines_flatMap Routines.nodup_types_requested

/-- What a routine calls is there with it. -/
theorem types_closed (h : ∀ d ∈ documents, d.2 ∈ Mode.named)
    (ht : t ∈ (requested documents crate).types d) {c : Direction × String}
    (hc : c ∈ calls (Routine.code (runtimePath crate) d t)) :
    ∃ s ∈ (requested documents crate).types d, c = (d, routineName d s) := by
  obtain ⟨s, rfl, hchild | ⟨-, -, rfl⟩⟩ := (Routine.mem_calls_code _).1 hc
  · obtain ⟨u, hu, hpart⟩ := (mem_types_generate h).1 ht
    exact ⟨s, (mem_types_generate h).2 ⟨u, hu, mem_parts_of_child hpart hchild⟩, rfl⟩
  · exact ⟨s, ht, rfl⟩

/-- A routine that no proxy or handler calls is called by the one for a type that its own is directly
inside. -/
theorem called_or_parent (h : ∀ d ∈ documents, d.2 ∈ Mode.named)
    (ht : t ∈ (requested documents crate).types d) :
    (d, routineName d t) ∈ (generate documents crate).calls ∨
      ∃ s ∈ (requested documents crate).types d, t ∈ s.children := by
  obtain ⟨u, hu, hpart⟩ := (mem_types_generate h).1 ht
  rcases eq_or_child_of_mem_parts hpart with rfl | ⟨s, hs, hchild⟩
  · exact .inl hu
  · exact .inr ⟨s, (mem_types_generate h).2 ⟨u, hu, hs⟩, hchild⟩

/-- The collections are closed and have nothing that is not called. Every routine that a proxy, a
handler or another routine calls is defined once in the collection of its direction, which a proxy or
handler names before it and a routine is in itself; and every routine is called by a proxy or handler
or by another routine of the collection. The routine for a type is all that is defined for it, so the
function for optional texts belongs to the routine for texts, which it calls. -/
theorem routines_closed (h : ∀ d ∈ documents, d.2 ∈ Mode.named) (crate : String) :
    (∀ u ∈ (generate documents crate).bindings, unqualified "" u.code = [] ∧
      ∀ c ∈ calls u.code, (generate documents crate).DefinesOnce c) ∧
    ∀ d, ∃ types : List Ty,
      (generate documents crate).routines d =
        types.flatMap (Routine.code (runtimePath crate) d) ∧
      (∀ t ∈ types, ∀ c ∈ calls (Routine.code (runtimePath crate) d t),
        c.1 = d ∧ (generate documents crate).DefinesOnce c) ∧
      ∀ t ∈ types,
        (∃ u ∈ (generate documents crate).bindings, (d, routineName d t) ∈ calls u.code) ∨
        ∃ s ∈ types, s ≠ t ∧
          (d, routineName d t) ∈ calls (Routine.code (runtimePath crate) d s) := by
  refine ⟨fun u hu => ⟨unqualified_of_mem_bindings hu, fun c hc => ?_⟩,
    fun d => ⟨(requested documents crate).types d, routines_generate documents crate d,
      fun t ht c hc => ?_, fun t ht => ?_⟩⟩
  · have hcalled : c ∈ (generate documents crate).calls := List.mem_flatMap.2 ⟨u, hu, hc⟩
    obtain ⟨s, hs⟩ := exists_of_mem_calls h hcalled
    rw [hs] at hcalled ⊢
    exact definesOnce_of_mem ((mem_types_generate h).2 ⟨s, hcalled, self_mem_parts s⟩)
  · obtain ⟨s, hs, rfl⟩ := types_closed h ht hc
    exact ⟨rfl, definesOnce_of_mem hs⟩
  · rcases called_or_parent h ht with hcalled | ⟨s, hs, hchild⟩
    · exact .inl (List.mem_flatMap.1 hcalled)
    · have hne : s ≠ t := fun heq => absurd (sizeOf_lt_of_mem_children hchild) (by simp [heq])
      exact .inr ⟨s, hs, hne, (Routine.mem_calls_code _).2 ⟨t, rfl, .inl hchild⟩⟩

/-- A document to call a method that gives a struct. -/
def pairDocument : Document × Mode :=
  (⟨[⟨"org.example.Pair", [⟨"Get", [], [⟨none, "(as)"⟩], none⟩], [], [], none⟩]⟩, .proxy)

theorem routines_closed_pair :
    (∀ u ∈ (generate [pairDocument] "dbus").bindings, unqualified "" u.code = [] ∧
      ∀ c ∈ calls u.code, (generate [pairDocument] "dbus").DefinesOnce c) ∧
    ∃ types : List Ty,
      (generate [pairDocument] "dbus").routines .read =
        types.flatMap (Routine.code (runtimePath "dbus") .read) ∧
      ∀ t ∈ types, (∃ u ∈ (generate [pairDocument] "dbus").bindings,
          (.read, routineName .read t) ∈ calls u.code) ∨
        ∃ s ∈ types, s ≠ t ∧
          (.read, routineName .read t) ∈ calls (Routine.code (runtimePath "dbus") .read s) := by
  have hnamed : ∀ d ∈ [pairDocument], d.2 ∈ Mode.named := by decide
  obtain ⟨hbindings, hroutines⟩ := routines_closed hnamed "dbus"
  obtain ⟨types, htypes, -, hcalled⟩ := hroutines .read
  exact ⟨hbindings, types, htypes, hcalled⟩

/-- The strings in the struct are read by a routine that only the one for the list calls. -/
example : (requested [pairDocument] "dbus").types .read =
    [.basic .string, .array (.basic .string), .struct [.array (.basic .string)]] := by
  decide +kernel

end Documents

end DBus.Bindings
