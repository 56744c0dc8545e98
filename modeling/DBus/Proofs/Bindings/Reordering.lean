import DBus.Proofs.Bindings.Generated
import DBus.Proofs.Bindings.Merging

/-!
# Documents in another order

The routines are made while the units are generated, and a routine that is there already is not made
again. None of this is seen in the result: whatever has been asked for before, an interface gives the
same units. So where the documents agree on what an interface is, documents in another order give the
same units, errors and routines, only in another order.
-/

namespace DBus.Bindings

/-- The units of an interface are the same whatever routines were asked for before, and what was made
for another interface is not changed. -/
theorem units_run_requestAll (rt : String) (i : ResolvedInterface) (mode : Mode)
    (before : List (Direction × Ty)) :
    let s := ({} : Synthesis).requestAll rt before
    ((Generate.units rt i mode).run rt s).1 = ((Generate.units rt i mode).run rt {}).1 ∧
      ∀ d, (s.cache d).routines <+:
        (((Generate.units rt i mode).run rt s).2.cache d).routines := by
  intro s
  have hmakes : s.Makes rt (({} : Routines).requestAll before) :=
    Synthesis.makes_empty.requestAll before
  obtain ⟨hunits, hmade⟩ := hmakes.run (Generate.units rt i mode)
  refine ⟨hunits.trans (Synthesis.makes_empty.run (Generate.units rt i mode)).1.symm, fun d => ?_⟩
  rw [(hmakes d).routines, (hmade d).routines]
  exact (Routines.types_prefix_requestAll _ _ d).map _

section Permuted

variable {merged merged' : List (Interface × Mode)}

theorem resolved_perm (h : merged.Perm merged') :
    (Generate.resolved merged).Perm (Generate.resolved merged') :=
  h.filterMap _

theorem refused_perm (h : merged.Perm merged') :
    (Generate.refused merged).Perm (Generate.refused merged') :=
  h.filterMap _

variable {documents documents' : List (Document × Mode)}

/-- Merged interfaces in another order ask for the same routines. -/
theorem types_requested_perm (h : (merge documents).Perm (merge documents')) (crate : String)
    (d : Direction) :
    ((requested documents crate).types d).Perm ((requested documents' crate).types d) :=
  Routines.types_requestAll_perm ((resolved_perm h).flatMap_right _)

/-- Where documents agree on what an interface is, their order is only that of the units, of the
errors and of the routines: each unit has the same name and code, and each routine the same code. -/
theorem generate_perm (h : documents.Perm documents')
    (hsame : ∀ i ∈ definitions documents, ∀ j ∈ definitions documents, i.name = j.name → i = j)
    (crate : String) :
    (generate documents crate).bindings.Perm (generate documents' crate).bindings ∧
      (generate documents crate).errors.Perm (generate documents' crate).errors ∧
      ∀ d, ∃ types types' : List Ty, types.Perm types' ∧
        (generate documents crate).routines d =
          types.flatMap (Routine.code (runtimePath crate) d) ∧
        (generate documents' crate).routines d =
          types'.flatMap (Routine.code (runtimePath crate) d) := by
  have hmerge : (merge documents).Perm (merge documents') := merge_perm h hsame
  refine ⟨?_, ?_, fun d => ?_⟩
  · rw [bindings_generate, bindings_generate]
    exact (resolved_perm hmerge).flatMap_right _
  · rw [errors_generate, errors_generate]
    exact refused_perm hmerge
  · exact ⟨_, _, types_requested_perm hmerge crate d, routines_generate documents crate d,
      routines_generate documents' crate d⟩

/-- A document to call a clock. -/
def clockCaller : Document × Mode :=
  (⟨[⟨"org.example.Clock", [⟨"Now", [], [⟨none, "t"⟩], none⟩], [], [], none⟩]⟩, .proxy)

/-- A document to implement a log and the clock. -/
def clockAndLog : Document × Mode :=
  (⟨[⟨"org.example.Log", [], [], [⟨"Lines", "as", .read, none⟩], none⟩,
    ⟨"org.example.Clock", [⟨"Now", [], [⟨none, "t"⟩], none⟩], [], [], none⟩]⟩, .handler)

theorem generate_perm_clock :
    (generate [clockCaller, clockAndLog] "dbus").bindings.Perm
        (generate [clockAndLog, clockCaller] "dbus").bindings ∧
      (generate [clockCaller, clockAndLog] "dbus").errors.Perm
        (generate [clockAndLog, clockCaller] "dbus").errors := by
  have hsame : ∀ i ∈ definitions [clockCaller, clockAndLog],
      ∀ j ∈ definitions [clockCaller, clockAndLog], i.name = j.name → i = j := by
    decide
  obtain ⟨hbindings, herrors, -⟩ :=
    generate_perm (List.Perm.swap clockAndLog clockCaller []) hsame "dbus"
  exact ⟨hbindings, herrors⟩

end Permuted

end DBus.Bindings
