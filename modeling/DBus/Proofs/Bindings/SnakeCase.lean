import Mathlib
import DBus.Bindings.Name

/-!
# Snake case

Every name has a form in snake case, which is a name in snake case (`snakeCase_isSnake`): small
letters, digits and underscores, and no digit first. The form has the letters and digits of the name,
in order and in lower case, and tells everything else by underscores (`filter_snakeCase`). The names
in snake case are those that are their own form (`snakeCase_eq_self_iff`), so that nothing changes
when the form of a form is taken.
-/

namespace DBus.Bindings

/-- A character of names in snake case. -/
def isSnakeChar (c : Char) : Bool :=
  c.isLower || c.isDigit || c == '_'

/-- A name in snake case: `[a-z_][a-z0-9_]*`. -/
structure IsSnake (text : String) : Prop where
  ne_empty : text ≠ ""
  chars : ∀ c ∈ text.toList, isSnakeChar c
  start : ∀ c ∈ text.toList.head?, ¬c.isDigit

/-! ### Letters and digits -/

theorem caseless_of_isDigit {c : Char} (h : c.isDigit) :
    c.isUpper = false ∧ c.isLower = false := by
  simp [Char.isDigit, Char.isUpper, Char.isLower, UInt32.le_iff_toNat_le] at h ⊢
  omega

theorem toLower_of_isAlphanum {c : Char} (h : c.isAlphanum) :
    c.toLower.isLower ∨ c.toLower.isDigit := by
  simp only [Char.isAlphanum, Bool.or_eq_true] at h
  rcases h with halpha | hdigit
  · exact .inl (by rwa [Char.isLower_toLower_eq_isAlpha])
  · have hupper : ¬c.isUpper := by simp [caseless_of_isDigit hdigit]
    exact .inr (by rwa [Char.toLower_eq_of_not_isUpper hupper])

theorem isSnakeChar_toLower {c : Char} (h : c.isAlphanum) : isSnakeChar c.toLower := by
  rcases toLower_of_isAlphanum h with hlower | hdigit
  · simp [isSnakeChar, hlower]
  · simp [isSnakeChar, hdigit]

theorem toLower_ne_underscore {c : Char} (h : c.isAlphanum) : c.toLower ≠ '_' := by
  intro heq
  have hkind := toLower_of_isAlphanum h
  rw [heq] at hkind
  exact absurd hkind (by decide)

theorem not_isUpper_of_isSnakeChar {c : Char} (h : isSnakeChar c) : ¬c.isUpper := by
  simp only [isSnakeChar, Bool.or_eq_true, beq_iff_eq] at h
  rcases h with (hlower | hdigit) | rfl
  · exact Char.not_isUpper_of_isLower hlower
  · simp [caseless_of_isDigit hdigit]
  · decide

theorem wordChar_eq_self {c : Char} (h : c.isAlphanum ∨ c = '_') : wordChar c = c := by
  rcases h with hkept | rfl
  · exact if_pos hkept
  · rfl

theorem isAlphanum_or_of_isSnakeChar {c : Char} (h : isSnakeChar c) : c.isAlphanum ∨ c = '_' := by
  simp only [isSnakeChar, Bool.or_eq_true, beq_iff_eq] at h
  rcases h with (hlower | hdigit) | rfl
  · exact .inl (by simp [Char.isAlphanum, Char.isAlpha, hlower])
  · exact .inl (by simp [Char.isAlphanum, hdigit])
  · exact .inr rfl

/-! ### Where words begin -/

theorem wordBegins_of_isAlphanum {c : Char} (hc : c.isAlphanum) {next : Option Char}
    (hnext : next.any Char.isLower) : wordBegins (some c) next = true := by
  simp only [Char.isAlphanum, Char.isAlpha, Bool.or_eq_true] at hc
  rw [wordBegins, hnext, Bool.and_true]
  rcases hc with (hupper | hlower) | hdigit
  · simp [hupper]
  · simp [hlower]
  · simp [hdigit]

theorem isAlphanum_of_wordBegins {c : Char} {next : Option Char}
    (h : wordBegins (some c) next = true) : c.isAlphanum := by
  simp only [wordBegins, Bool.or_eq_true, Bool.and_eq_true] at h
  simp only [Char.isAlphanum, Char.isAlpha, Bool.or_eq_true]
  rcases h with (hlower | hdigit) | ⟨hupper, -⟩
  · exact .inl (.inr hlower)
  · exact .inr hdigit
  · exact .inl (.inl hupper)

/-- Before a capital no word begins that would not begin at the end. -/
theorem wordBegins_before_capital {c : Char} (hc : c.isUpper) (before : Option Char) :
    wordBegins before (some c) = wordBegins before none := by
  have hlower : c.isLower = false := by simpa using Char.not_isLower_of_isUpper hc
  cases before with
  | none => rfl
  | some b => simp [wordBegins, hlower]

/-! ### What is written -/

/-- A name in lower case with an underscore before each word, with no regard to what is written
before it. -/
def snakeFrom (before : Option Char) : List Char → List Char
  | [] => []
  | c :: cs =>
    let rest := snakeFrom (some c) cs
    if c.isUpper then
      if wordBegins before cs.head? then '_' :: c.toLower :: rest else c.toLower :: rest
    else c :: rest

theorem snakeFrom_cons (before : Option Char) (c : Char) (cs : List Char) :
    snakeFrom before (c :: cs) = (if c.isUpper && wordBegins before cs.head? then ['_'] else [])
      ++ c.toLower :: snakeFrom (some c) cs := by
  rw [snakeFrom]
  by_cases hc : c.isUpper
  · cases hbegins : wordBegins before cs.head? <;> simp [hc]
  · simp [hc, Char.toLower_eq_of_not_isUpper hc]

/-- There is no need to look at what is written: a letter or digit stands before each word. -/
theorem appendSnake_eq {written : List Char} {before : Option Char}
    (h : written.getLast? = before.map Char.toLower) (cs : List Char) :
    appendSnake written before cs = written ++ snakeFrom before cs := by
  induction cs generalizing written before with
  | nil => simp [appendSnake, snakeFrom]
  | cons c cs ih =>
    have hlast : ∀ b, wordBegins before b = true → written.getLast? ≠ some '_' := by
      intro b hb
      cases before with
      | none => cases hb
      | some d => simpa [h] using toLower_ne_underscore (isAlphanum_of_wordBegins hb)
    rw [appendSnake, snakeFrom_cons]
    by_cases hc : c.isUpper
    · rw [if_pos hc, hc, Bool.true_and, ih (by simp)]
      cases hbegins : wordBegins before cs.head? with
      | true => simp [hlast _ hbegins]
      | false => simp
    · have hlower := Char.toLower_eq_of_not_isUpper hc
      rw [if_neg hc, ih (by simp [hlower])]
      simp [hc, hlower]

/-- A word begins at a capital with a lower case letter behind it, whatever letter or digit comes
before. -/
theorem snakeFrom_append {cs rest : List Char} {c : Char} (hne : cs ≠ [])
    (hlast : ∀ d ∈ cs.getLast?, d.isAlphanum) (hc : c.isUpper)
    (hrest : rest.head?.any Char.isLower) (before : Option Char) :
    snakeFrom before (cs ++ c :: rest)
      = snakeFrom before cs ++ '_' :: snakeFrom none (c :: rest) := by
  induction cs generalizing before with
  | nil => exact absurd rfl hne
  | cons d cs ih =>
    rw [List.cons_append, snakeFrom_cons, snakeFrom_cons before d cs]
    cases cs with
    | nil =>
      have hbegins := wordBegins_of_isAlphanum (hlast d rfl) hrest
      have hnever : wordBegins none rest.head? = false := rfl
      rw [List.nil_append, snakeFrom_cons (some d), snakeFrom_cons none, List.head?_cons,
        wordBegins_before_capital hc, hbegins, hnever, hc]
      simp [snakeFrom]
    | cons e cs =>
      rw [List.getLast?_cons_cons] at hlast
      rw [ih (List.cons_ne_nil e cs) hlast]
      simp

/-! ### The form of a name -/

theorem mem_snakeFrom {d : Char} : ∀ {cs : List Char} {before : Option Char},
    d ∈ snakeFrom before cs → d = '_' ∨ ∃ c ∈ cs, c.toLower = d
  | [], _, h => by cases h
  | c :: cs, before, h => by
    rw [snakeFrom_cons, List.mem_append, List.mem_cons] at h
    rcases h with hmark | rfl | hrest
    · split at hmark
      · exact .inl (List.mem_singleton.1 hmark)
      · cases hmark
    · exact .inr ⟨c, List.mem_cons_self, rfl⟩
    · exact (mem_snakeFrom hrest).imp_right fun ⟨e, he, hd⟩ => ⟨e, List.mem_cons_of_mem c he, hd⟩

/-- The last character stays, but for its case. -/
theorem getLast?_snakeFrom (before : Option Char) (cs : List Char) :
    (snakeFrom before cs).getLast? = cs.getLast?.map Char.toLower := by
  induction cs generalizing before with
  | nil => rfl
  | cons c cs ih =>
    rw [snakeFrom_cons, List.getLast?_append, List.getLast?_cons, List.getLast?_cons, ih]
    cases cs.getLast? <;> rfl

theorem snakeFrom_ne_nil {cs : List Char} (h : cs ≠ []) (before : Option Char) :
    snakeFrom before cs ≠ [] := by
  intro hnil
  have hlast := getLast?_snakeFrom before cs
  rw [hnil, List.getLast?_nil, eq_comm, Option.map_eq_none_iff, List.getLast?_eq_none_iff] at hlast
  exact h hlast

/-- Without capitals there is nothing to mark. -/
theorem snakeFrom_eq_self {cs : List Char} (before : Option Char) (h : ∀ c ∈ cs, ¬c.isUpper) :
    snakeFrom before cs = cs := by
  induction cs generalizing before with
  | nil => rfl
  | cons c cs ih =>
    obtain ⟨hc, hcs⟩ := List.forall_mem_cons.1 h
    rw [snakeFrom, if_neg hc, ih _ hcs]

theorem notDigitFirst_append {cs : List Char} (h : cs ≠ []) (ds : List Char) :
    notDigitFirst (cs ++ ds) = notDigitFirst cs ++ ds := by
  cases cs with
  | nil => exact absurd rfl h
  | cons c cs =>
    rw [List.cons_append, notDigitFirst, notDigitFirst]
    split <;> rfl

theorem getLast?_notDigitFirst (cs : List Char) :
    (notDigitFirst cs).getLast? = cs.getLast? := by
  cases cs with
  | nil => rfl
  | cons c cs =>
    rw [notDigitFirst]
    split
    · rw [List.getLast?_cons_cons]
    · rfl

theorem toList_snakeCase {name : String} (h : name ≠ "") :
    (snakeCase name).toList = notDigitFirst (snakeFrom none (name.toList.map wordChar)) := by
  have hne : name.toList.map wordChar ≠ [] := by simpa using h
  rw [snakeCase, appendSnake_eq rfl, List.nil_append]
  split
  · next hnil =>
    have hlast := getLast?_notDigitFirst (snakeFrom none (name.toList.map wordChar))
    rw [hnil, List.getLast?_nil, eq_comm, List.getLast?_eq_none_iff] at hlast
    exact absurd hlast (snakeFrom_ne_nil hne none)
  · rw [String.toList_ofList]

/-! ### The form is in snake case -/

theorem isSnakeChar_snakeFrom (before : Option Char) (cs : List Char) :
    ∀ d ∈ snakeFrom before (cs.map wordChar), isSnakeChar d := by
  intro d hd
  rcases mem_snakeFrom hd with rfl | ⟨w, hw, rfl⟩
  · decide
  · obtain ⟨c, -, rfl⟩ := List.mem_map.1 hw
    unfold wordChar
    split
    · next hc => exact isSnakeChar_toLower hc
    · decide

theorem isSnake_of_notDigitFirst {cs : List Char} (hne : cs ≠ []) (h : ∀ c ∈ cs, isSnakeChar c) :
    IsSnake (String.ofList (notDigitFirst cs)) := by
  cases cs with
  | nil => exact absurd rfl hne
  | cons c cs =>
    rw [notDigitFirst]
    split
    · exact ⟨by simp, by simpa using List.forall_mem_cons.2 ⟨by decide, h⟩, by simp⟩
    · next hdigit => exact ⟨by simp, by simpa using h, by simpa using hdigit⟩

theorem snakeCase_isSnake (name : String) : IsSnake (snakeCase name) := by
  by_cases hname : name = ""
  · subst hname
    exact isSnake_of_notDigitFirst (List.cons_ne_nil '_' []) (List.forall_mem_singleton.2 rfl)
  · have hne : name.toList.map wordChar ≠ [] := by simpa using hname
    have hform := isSnake_of_notDigitFirst (snakeFrom_ne_nil hne none)
      (isSnakeChar_snakeFrom none name.toList)
    rwa [← toList_snakeCase hname, String.ofList_toList] at hform

/-- The names in snake case are those that are their own form. -/
theorem snakeCase_eq_self_iff {name : String} : snakeCase name = name ↔ IsSnake name := by
  constructor
  · intro h
    exact h ▸ snakeCase_isSnake name
  · rintro ⟨hne, hchars, hstart⟩
    have hword : name.toList.map wordChar = name.toList :=
      (List.map_congr_left fun c hc =>
        wordChar_eq_self (isAlphanum_or_of_isSnakeChar (hchars c hc))).trans (List.map_id _)
    have hsame : snakeFrom none name.toList = name.toList :=
      snakeFrom_eq_self none fun c hc => not_isUpper_of_isSnakeChar (hchars c hc)
    rw [← String.toList_inj, toList_snakeCase hne, hword, hsame]
    cases hcs : name.toList with
    | nil => rfl
    | cons c cs =>
      rw [hcs] at hstart
      rw [notDigitFirst, if_neg (hstart c rfl)]

/-! ### What the form keeps of a name -/

theorem filter_snakeFrom (before : Option Char) (cs : List Char) :
    (snakeFrom before cs).filter (· ≠ '_') = (cs.map Char.toLower).filter (· ≠ '_') := by
  induction cs generalizing before with
  | nil => rfl
  | cons c cs ih =>
    have hmark : ∀ b : Bool, (if b then ['_'] else []).filter (· ≠ '_') = [] := by decide
    rw [snakeFrom_cons, List.filter_append, hmark, List.nil_append, List.map_cons,
      List.filter_cons, List.filter_cons, ih]

theorem filter_toLower_wordChar (cs : List Char) :
    ((cs.map wordChar).map Char.toLower).filter (· ≠ '_')
      = (cs.filter Char.isAlphanum).map Char.toLower := by
  induction cs with
  | nil => rfl
  | cons c cs ih =>
    rw [List.map_cons, List.map_cons]
    by_cases hc : c.isAlphanum
    · rw [wordChar, if_pos hc, List.filter_cons_of_pos (by simpa using toLower_ne_underscore hc), ih,
        List.filter_cons_of_pos hc, List.map_cons]
    · rw [wordChar, if_neg hc, List.filter_cons_of_neg (by decide), ih, List.filter_cons_of_neg hc]

theorem filter_notDigitFirst (cs : List Char) :
    (notDigitFirst cs).filter (· ≠ '_') = cs.filter (· ≠ '_') := by
  cases cs with
  | nil => rfl
  | cons c cs =>
    rw [notDigitFirst]
    split
    · rw [List.filter_cons_of_neg (by decide)]
    · rfl

theorem filter_snakeCase (name : String) :
    (snakeCase name).toList.filter (· ≠ '_')
      = (name.toList.filter Char.isAlphanum).map Char.toLower := by
  by_cases hname : name = ""
  · subst hname
    rfl
  · rw [toList_snakeCase hname, filter_notDigitFirst, filter_snakeFrom, filter_toLower_wordChar]

/-- Whatever a name is made of, its form is not empty, is made of small letters, digits and
underscores and has no digit first; without its underscores it is the letters and digits of the name
in lower case; and it is its own form. -/
theorem snakeCase_normal (name : String) :
    (snakeCase name ≠ "" ∧
      (∀ c ∈ (snakeCase name).toList, c.isLower ∨ c.isDigit ∨ c = '_') ∧
      ∀ c ∈ (snakeCase name).toList.head?, ¬c.isDigit) ∧
    (snakeCase name).toList.filter (· ≠ '_')
      = (name.toList.filter Char.isAlphanum).map Char.toLower ∧
    snakeCase (snakeCase name) = snakeCase name := by
  have hsnake := snakeCase_isSnake name
  refine ⟨⟨hsnake.ne_empty, fun c hc => ?_, hsnake.start⟩, filter_snakeCase name, ?_⟩
  · simpa [isSnakeChar, or_assoc] using hsnake.chars c hc
  · exact snakeCase_eq_self_iff.2 hsnake

/-- A name that starts with a digit and has letters beyond ASCII. -/
theorem snakeCase_normal_mixed :
    snakeCase "2HTTPServer-Größe" = "_2_http_server_gr__e" ∧
      ('h'.isLower ∨ 'h'.isDigit ∨ 'h' = '_') ∧ ¬('_'.isDigit) ∧
      snakeCase "_2_http_server_gr__e" = "_2_http_server_gr__e" := by
  have hform : snakeCase "2HTTPServer-Größe" = "_2_http_server_gr__e" := by decide +kernel
  obtain ⟨⟨-, hchars, hstart⟩, -, hsame⟩ := snakeCase_normal "2HTTPServer-Größe"
  rw [hform] at hchars hstart hsame
  exact ⟨hform, hchars 'h' (by decide +kernel), hstart '_' (by decide +kernel), hsame⟩

end DBus.Bindings
