import DBus.Bindings.Name
import Mathlib.Data.List.Basic

/-!
# Distinct names

A name that is claimed in a scope is none of those taken there, and begins with the name that was
asked for.
-/

namespace DBus.Bindings

namespace Scope

/-- Fewer names are longer than a name that is taken than are at least as long. -/
theorem countP_longer_lt {name : String} : ∀ {taken : List String}, name ∈ taken →
    taken.countP (fun t => name.length + 1 ≤ t.length) < taken.countP (fun t => name.length ≤ t.length)
  | t :: taken, h => by
    have hmono : taken.countP (fun t => name.length + 1 ≤ t.length)
        ≤ taken.countP (fun t => name.length ≤ t.length) :=
      List.countP_mono_left fun t _ ht => by simp only [decide_eq_true_eq] at ht ⊢; omega
    rw [List.countP_cons, List.countP_cons]
    rcases List.mem_cons.1 h with rfl | h
    · rw [if_neg (by simp), if_pos (by simp)]
      omega
    · have hlt := countP_longer_lt h
      -- a name that is longer is at least as long
      by_cases hlonger : name.length + 1 ≤ t.length
      · have hlong : name.length ≤ t.length := Nat.le_of_succ_le hlonger
        rw [if_pos (by simpa using hlonger), if_pos (by simpa using hlong)]
        exact Nat.add_lt_add_right hlt 1
      · rw [if_neg (by simpa using hlonger)]
        exact Nat.lt_add_right _ hlt

/-- With as many tries as there are names that are no shorter, a free name is found. -/
theorem freshen_not_mem_of_countP {taken : List String} {tries : Nat} {name : String}
    (h : taken.countP (fun t => name.length ≤ t.length) ≤ tries) :
    freshen taken tries name ∉ taken := by
  induction tries generalizing name with
  | zero =>
    intro hmem
    have hpos : 0 < taken.countP (fun t => name.length ≤ t.length) :=
      List.countP_pos_iff.2 ⟨name, hmem, by simp⟩
    omega
  | succ tries ih =>
    rw [freshen]
    split
    · next hc =>
      have hlt := countP_longer_lt (List.contains_iff_mem.1 hc)
      refine ih ?_
      rw [String.length_append]
      exact Nat.le_of_lt_succ (Nat.lt_of_lt_of_le hlt h)
    · next hc => simpa using hc

theorem freshen_not_mem (taken : List String) (name : String) :
    freshen taken taken.length name ∉ taken :=
  freshen_not_mem_of_countP List.countP_le_length

/-- A name is changed only at its end. -/
theorem freshen_eq_append (taken : List String) (tries : Nat) (name : String) :
    ∃ rest, freshen taken tries name = name ++ rest := by
  induction tries generalizing name with
  | zero => exact ⟨"", by simp [freshen]⟩
  | succ tries ih =>
    rw [freshen]
    split
    · obtain ⟨rest, hrest⟩ := ih (name ++ "_")
      exact ⟨"_" ++ rest, by rw [hrest, String.append_assoc]⟩
    · exact ⟨"", by simp⟩

variable (s : Scope) (name : String)

theorem claim_not_mem : (s.claim name).1 ∉ s.taken :=
  freshen_not_mem _ _

theorem claim_eq_append : ∃ rest, (s.claim name).1 = name ++ rest := by
  obtain ⟨rest, hrest⟩ := freshen_eq_append s.taken s.taken.length
    (if neverIdents.contains name then name ++ "_" else name)
  unfold claim
  split at hrest
  · exact ⟨"_" ++ rest, by simp_all [String.append_assoc]⟩
  · exact ⟨rest, by simp_all⟩

end Scope

end DBus.Bindings
