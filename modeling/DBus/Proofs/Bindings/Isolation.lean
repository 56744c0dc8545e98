import DBus.Bindings.Project
import DBus.Proofs.Bindings.Outcome

/-!
# Failing inputs leave nothing behind

An interface with a signature that spells no type adds an error and nothing else: generation gives
the same units, in which the routines count too, when all interfaces of that name are taken out of
the documents. In the same way a document that cannot be loaded adds an error to a project and
nothing else.
-/

namespace DBus.Bindings

/-! ### Interfaces -/

/-- The names of the interfaces that have an error. -/
def Generated.refusedNames (g : Generated) : List String :=
  g.errors.filterMap (·.interface?)

/-- A document without the interfaces of some names. -/
def Document.without (d : Document) (names : List String) : Document :=
  ⟨d.interfaces.filter fun i => !names.contains i.name⟩

/-- Documents without the interfaces of some names. -/
def without (documents : List (Document × Mode)) (names : List String) : List (Document × Mode) :=
  documents.map fun d => (d.1.without names, d.2)

theorem interface?_of_resolve {i : Interface} {e : BindingError} (h : resolve i = .error e) :
    e.interface? = some i.name := by
  obtain ⟨_, _, _, _, -, -, -, rfl⟩ := resolve_eq_error_iff.1 h
  rfl

theorem Generate.mem_refused {merged : List (Interface × Mode)} {err : BindingError} :
    err ∈ refused merged ↔ ∃ e ∈ merged, e.2.isEmpty = false ∧ resolve e.1 = .error err := by
  simp only [refused, List.mem_filterMap]
  refine exists_congr fun e => and_congr_right fun _ => ?_
  cases hmode : e.2.isEmpty <;> cases hr : resolve e.1 <;> simp

section Documents

variable {documents : List (Document × Mode)} {crate : String}

theorem mem_refusedNames {name : String} :
    name ∈ (generate documents crate).refusedNames ↔
      ∃ e ∈ merge documents, e.1.name = name ∧ e.2.isEmpty = false ∧
        ∃ err, resolve e.1 = .error err := by
  rw [Generated.refusedNames, errors_generate, List.mem_filterMap]
  constructor
  · rintro ⟨err, herr, hname⟩
    obtain ⟨e, he, hmode, hr⟩ := Generate.mem_refused.1 herr
    rw [interface?_of_resolve hr] at hname
    exact ⟨e, he, Option.some.inj hname, hmode, err, hr⟩
  · rintro ⟨e, he, rfl, hmode, err, hr⟩
    exact ⟨err, Generate.mem_refused.2 ⟨e, he, hmode, hr⟩, interface?_of_resolve hr⟩

theorem merge_without (names : List String) :
    merge (without documents names) =
      (merge documents).filter fun e => !names.contains e.1.name :=
  merge_filter documents fun name => !names.contains name

/-- An entry of such a name is refused, since there is only one of each name. -/
theorem resolve_of_refused {e : Interface × Mode} (he : e ∈ merge documents)
    (hname : e.1.name ∈ (generate documents crate).refusedNames) :
    ∃ err, resolve e.1 = .error err := by
  obtain ⟨f, hf, hfe, -, hr⟩ := mem_refusedNames.1 hname
  rwa [eq_of_name_eq hf he hfe] at hr

theorem resolved_without :
    Generate.resolved (merge (without documents (generate documents crate).refusedNames)) =
      Generate.resolved (merge documents) := by
  rw [merge_without, Generate.resolved, Generate.resolved, List.filterMap_filter]
  refine List.filterMap_congr fun e he => ?_
  by_cases hname : e.1.name ∈ (generate documents crate).refusedNames
  · obtain ⟨err, hr⟩ := resolve_of_refused he hname
    simp [hname, hr]
  · simp [hname]

theorem refused_without :
    Generate.refused (merge (without documents (generate documents crate).refusedNames)) = [] := by
  rw [List.eq_nil_iff_forall_not_mem]
  intro err herr
  obtain ⟨e, he, hmode, hr⟩ := Generate.mem_refused.1 herr
  rw [merge_without, List.mem_filter] at he
  have hname : e.1.name ∈ (generate documents crate).refusedNames :=
    mem_refusedNames.2 ⟨e, he.1, rfl, hmode, err, hr⟩
  simp [hname] at he

/-- Without the interfaces that have an error the same units are generated, and no error. -/
theorem generate_without (documents : List (Document × Mode)) (crate : String) :
    generate (without documents (generate documents crate).refusedNames) crate =
      { units := (generate documents crate).units, errors := [] } := by
  have hunits : (generate (without documents (generate documents crate).refusedNames) crate).units =
      (generate documents crate).units := by
    rw [units_generate, units_generate, requested, requested, resolved_without]
  have herrors : (generate (without documents (generate documents crate).refusedNames) crate).errors
      = [] := by
    rw [errors_generate, refused_without]
  rw [← hunits, ← herrors]

end Documents

/-! ### Documents of a project -/

namespace Project

open Files (Tree)

variable (p : Project) (t : Tree)

/-- A project without the documents that cannot be loaded. -/
def loadable : Project :=
  { p with sources := p.sources.filter fun s => (load t s).isOk }

theorem documents_loadable : (p.loadable t).documents t = p.documents t := by
  rw [documents, loadable, List.filterMap_filter]
  refine List.filterMap_congr fun s _ => ?_
  cases load t s <;> rfl

theorem loadErrors_eq : p.loadErrors t = p.sources.filterMap fun s => failure? (load t s) := by
  refine List.filterMap_congr fun s _ => ?_
  cases load t s <;> rfl

theorem loadErrors_loadable : (p.loadable t).loadErrors t = [] := by
  rw [loadErrors_eq, List.filterMap_eq_nil_iff]
  intro s hs
  have hok : (load t s).isOk = true := (List.mem_filter.1 hs).2
  cases h : load t s with
  | ok d => rfl
  | error e => simp [h, Except.isOk, Except.toBool] at hok

/-- A project generates what it does without the documents that cannot be loaded; its errors are
those of loading, in the order of the documents, and then those of the rest. -/
theorem generate_loadable :
    (p.generate t).units = ((p.loadable t).generate t).units ∧
      (p.generate t).errors =
        p.sources.filterMap (fun s => failure? (load t s)) ++ ((p.loadable t).generate t).errors ∧
      ((p.loadable t).generate t).errors = (Bindings.generate (p.documents t) p.crate).errors := by
  have hrest : (p.loadable t).generate t = Bindings.generate (p.documents t) p.crate := by
    rw [generate, documents_loadable, loadErrors_loadable]
    rfl
  rw [hrest, ← loadErrors_eq]
  exact ⟨rfl, rfl, rfl⟩

end Project

/-- What fails leaves nothing behind but its errors: generation gives the same units without the
interfaces that have an error, and a project gives the same units without the documents that cannot
be loaded. The errors of a project are those of loading, in the order of the documents, and then
those of the interfaces. -/
theorem failing_inputs_add_errors_only :
    (∀ (documents : List (Document × Mode)) (crate : String),
      generate (without documents (generate documents crate).refusedNames) crate =
        { units := (generate documents crate).units, errors := [] }) ∧
    ∀ (p : Project) (t : Files.Tree),
      (p.generate t).units = ((p.loadable t).generate t).units ∧
      (p.generate t).errors = p.sources.filterMap (fun s => failure? (Project.load t s)) ++
        ((p.loadable t).generate t).errors ∧
      ((p.loadable t).generate t).errors = (generate (p.documents t) p.crate).errors :=
  ⟨generate_without, Project.generate_loadable⟩

end DBus.Bindings
