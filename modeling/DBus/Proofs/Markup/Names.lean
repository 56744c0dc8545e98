import DBus.Markup.Lexer

/-!
# Names of elements

Whatever a document is, the elements in its tokens have names as markup allows: the part that counts
is never empty, and it holds no slash.
-/

namespace DBus.Markup

/-- Names of elements that are not empty and hold no slash. -/
def WellNamed (ts : List Token) : Prop :=
  ∀ name, .start name ∈ ts → name.name ≠ "" ∧ '/' ∉ name.name.toList

theorem WellNamed.left {ts us : List Token} (h : WellNamed (ts ++ us)) : WellNamed ts :=
  fun name hname => h name (List.mem_append_left _ hname)

theorem name_of_qualifiedName {cs rest : List Char} {name : Name}
    (h : qualifiedName cs = some (name, rest)) : name.name ≠ "" ∧ '/' ∉ name.name.toList := by
  have hword : '/' ∉ cs.takeWhile isNameRest := by
    intro hmem
    have hrest := List.all_eq_true.1 List.all_takeWhile '/' hmem
    exact absurd hrest (by decide)
  -- what counts is a part of the word that stands here
  have hpart : ∀ part : List Char, part ⊆ cs.takeWhile isNameRest → part.isEmpty ≠ true →
      String.ofList part ≠ "" ∧ '/' ∉ (String.ofList part).toList := by
    intro part hsub hne
    rw [String.toList_ofList]
    refine ⟨?_, fun hmem => hword (hsub hmem)⟩
    simpa using hne
  unfold qualifiedName at h
  dsimp only at h
  split at h
  · next c part heq =>
    dsimp only at h
    split at h
    · cases h
    · next hok =>
      cases h
      simp only [Bool.or_eq_true, not_or] at hok
      have hsub : c :: part ⊆ cs.takeWhile isNameRest := heq ▸ (List.dropWhile_sublist _).subset
      exact hpart part (List.subset_of_cons_subset hsub) hok.1.1.2
  · dsimp only at h
    split at h
    · cases h
    · next hok =>
      cases h
      simp only [Bool.or_eq_true, not_or] at hok
      exact hpart _ (List.Subset.refl _) hok.1.1.2

section Step

variable {phase phase' : Phase} {depth : Nat} {cs rest : List Char} {name : Name}

theorem misc_ne_start : misc phase cs ≠ some (some (some (.start name), phase', rest)) := by
  unfold misc
  split
  · simp
  · split
    · split <;> simp
    · split
      · split <;> simp
      · simp

theorem inDeclarations_ne_start :
    inDeclarations cs ≠ some (some (.start name), phase', rest) := by
  unfold inDeclarations
  split
  · simp
  · split
    · next step hmisc =>
      rintro rfl
      exact misc_ne_start hmisc
    · split
      · simp
      · split <;> simp

theorem inTag_ne_start : inTag depth cs ≠ some (some (.start name), phase', rest) := by
  unfold inTag
  split <;> simp [Option.bind_eq_some_iff]

theorem textUpToTag_ne_start :
    textUpToTag depth cs ≠ some (some (.start name), phase', rest) := by
  unfold textUpToTag
  dsimp only
  split <;> simp

theorem endTag_ne_start : endTag depth cs ≠ some (some (.start name), phase', rest) := by
  unfold endTag
  simp [Option.bind_eq_some_iff]

/-- Elements start in start tags. -/
theorem startTag_of_step (h : step phase cs = some (some (.start name), phase', rest)) :
    ∃ depth, startTag depth cs = some (some (.start name), phase', rest) := by
  unfold step at h
  split at h
  · split at h
    · simp at h
    · cases hmisc : misc .prolog cs with
      | none =>
        rw [hmisc] at h
        simp at h
      | some o =>
        rw [hmisc] at h
        cases h
        exact absurd hmisc misc_ne_start
  · exact absurd h inDeclarations_ne_start
  · split at h
    · next step hmisc =>
      subst h
      exact absurd hmisc misc_ne_start
    · split at h
      · cases h
      · exact ⟨0, h⟩
      · cases h
  · next depth =>
    unfold inContent at h
    split at h
    · split at h <;> simp at h
    · split at h <;> simp at h
    · exact absurd h endTag_ne_start
    · exact ⟨depth, h⟩
    · cases h
    · exact absurd h textUpToTag_ne_start
  · exact absurd h inTag_ne_start
  · cases hmisc : misc .epilog cs with
    | none =>
      rw [hmisc] at h
      cases h
    | some o =>
      rw [hmisc] at h
      cases h
      exact absurd hmisc misc_ne_start

end Step

theorem wellNamed_run (fuel : Nat) (phase : Phase) (cs : List Char) {found : List Token}
    (h : WellNamed found) : WellNamed (run fuel phase cs found).tokens := by
  have hfound : ∀ {found : List Token}, WellNamed found → WellNamed found.reverse :=
    fun h name hname => h name (List.mem_reverse.1 hname)
  fun_induction run fuel phase cs found with
  | case1 | case2 | case3 => exact hfound h
  | case4 found fuel phase cs hcs token? phase' rest hstep ih =>
    refine ih fun name hname => ?_
    rcases List.mem_append.1 hname with hnew | hold
    · obtain rfl := Option.mem_toList.1 hnew
      obtain ⟨depth, hstart⟩ := startTag_of_step hstep
      obtain ⟨⟨name', rest'⟩, hname', hstart⟩ := Option.bind_eq_some_iff.1 hstart
      cases hstart
      exact name_of_qualifiedName hname'
    · exact h name hold

/-- Every element of a document has a name as markup allows. -/
theorem wellNamed_tokens (document : String) : WellNamed (tokens document).tokens := by
  unfold tokens
  split
  · exact wellNamed_run _ _ _ nofun
  · exact nofun

end DBus.Markup
