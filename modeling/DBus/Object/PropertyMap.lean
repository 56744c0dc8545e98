import DBus.Value

/-!
# Property maps

The values of some properties by name. The entries are kept in ascending order of the names, each
name once, so that a map has one form.
-/

namespace DBus

namespace PropertyMap

/-- Adds an entry to an ascending list of entries, in place of one with the same name. -/
def insertEntry (name : String) (value : Value) : List (String × Value) → List (String × Value)
  | [] => [(name, value)]
  | e :: rest =>
    if name < e.1 then (name, value) :: e :: rest
    else if e.1 < name then e :: insertEntry name value rest
    else (name, value) :: rest

/-- Whether entries stand in ascending order of their names, each name once. -/
def Ascending (entries : List (String × Value)) : Prop :=
  entries.Pairwise fun a b => a.1 < b.1

theorem mem_insertEntry {name : String} {value : Value} {entries : List (String × Value)}
    {e : String × Value} (h : e ∈ insertEntry name value entries) :
    e = (name, value) ∨ e ∈ entries := by
  induction entries with
  | nil => simpa [insertEntry] using h
  | cons a rest ih =>
    unfold insertEntry at h
    split at h
    · simpa using h
    · split at h
      · rcases List.mem_cons.1 h with rfl | h
        · simp
        · rcases ih h with h | h <;> simp [h]
      · rcases List.mem_cons.1 h with h | h <;> simp [h]

theorem ascending_insertEntry {name : String} {value : Value} {entries : List (String × Value)}
    (h : Ascending entries) : Ascending (insertEntry name value entries) := by
  induction entries with
  | nil => simp [insertEntry, Ascending]
  | cons a rest ih =>
    obtain ⟨below, later⟩ := List.pairwise_cons.1 h
    unfold insertEntry
    split
    · rename_i before
      refine List.pairwise_cons.2 ⟨fun b hb => ?_, h⟩
      rcases List.mem_cons.1 hb with rfl | hb
      · exact before
      · exact String.lt_trans before (below b hb)
    · rename_i notBefore
      split
      · rename_i after
        refine List.pairwise_cons.2 ⟨fun b hb => ?_, ih later⟩
        rcases mem_insertEntry hb with rfl | hb
        · exact after
        · exact below b hb
      · rename_i notAfter
        have same : a.1 = name := String.le_antisymm notBefore notAfter
        exact List.pairwise_cons.2 ⟨fun b hb => same ▸ below b hb, later⟩

end PropertyMap

/-- The values of some properties by name. -/
structure PropertyMap where
  /-- The properties in order. -/
  entries : List (String × Value)
  /-- The names ascend. -/
  ascending : PropertyMap.Ascending entries

namespace PropertyMap

/-- The map without properties. -/
def empty : PropertyMap := ⟨[], List.Pairwise.nil⟩

instance : Inhabited PropertyMap := ⟨empty⟩

/-- The map in which a property has a value. -/
def insert (m : PropertyMap) (name : String) (value : Value) : PropertyMap :=
  ⟨insertEntry name value m.entries, ascending_insertEntry m.ascending⟩

/-- The map of some properties; of two with one name the later counts. -/
def ofList (entries : List (String × Value)) : PropertyMap :=
  entries.foldl (fun m e => m.insert e.1 e.2) empty

/-- The value of a property. -/
def get? (m : PropertyMap) (name : String) : Option Value :=
  m.entries.lookup name

end PropertyMap

end DBus
