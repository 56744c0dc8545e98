import Mathlib
import DBus.Proofs.Bindings.Identifiers
import DBus.Proofs.Bindings.Routines
import DBus.Proofs.Bindings.SnakeCase

/-!
# Words that identifiers can be

The rules for identifiers are stated here on their own: what characters they are made of, and which
words are kept for the language. Whatever the names in an interface, each way in which a name becomes
an identifier keeps to these rules: the prefix of the types of an interface, snake case, a scope, and
the marking of keywords.
-/

namespace DBus.Bindings

/-- A character of identifiers: a letter or digit of ASCII, or an underscore. -/
def isIdentChar (c : Char) : Bool :=
  c.isAlphanum || c == '_'

/-- A text of characters of identifiers that starts with none of the digits:
`[A-Za-z_][A-Za-z0-9_]*`. -/
structure IsWord (text : String) : Prop where
  start : text.toList.head?.any fun c => c.isAlpha || c == '_'
  chars : ∀ c ∈ text.toList, isIdentChar c

instance (text : String) : Decidable (IsWord text) :=
  decidable_of_iff ((text.toList.head?.any fun c => c.isAlpha || c == '_') ∧
      text.toList.all isIdentChar)
    ⟨fun h => ⟨h.1, List.all_eq_true.1 h.2⟩, fun h => ⟨h.1, List.all_eq_true.2 h.2⟩⟩

/-- The keywords in use. -/
def strictKeywords : List String :=
  ["as", "async", "await", "break", "const", "continue", "crate", "dyn", "else", "enum", "extern",
   "false", "fn", "for", "if", "impl", "in", "let", "loop", "match", "mod", "move", "mut", "pub",
   "ref", "return", "self", "Self", "static", "struct", "super", "trait", "true", "type", "unsafe",
   "use", "where", "while"]

/-- The keywords kept for later. -/
def reservedKeywords : List String :=
  ["abstract", "become", "box", "do", "final", "gen", "macro", "override", "priv", "try", "typeof",
   "unsized", "virtual", "yield"]

/-- The words that cannot be marked as raw. -/
def neverRaw : List String := ["crate", "self", "super", "Self", "_"]

/-- An identifier that the language has: a word that is not the lone underscore, and, as it is marked
or not, no word that cannot be raw or no keyword. -/
structure Ident.Valid (i : Ident) : Prop where
  word : IsWord i.text
  ne_underscore : i.text ≠ "_"
  plain : i.raw = false → i.text ∉ strictKeywords ++ reservedKeywords
  raw : i.raw = true → i.text ∉ neverRaw

instance (i : Ident) : Decidable i.Valid :=
  decidable_of_iff (IsWord i.text ∧ i.text ≠ "_" ∧
      (i.raw = false → i.text ∉ strictKeywords ++ reservedKeywords) ∧
      (i.raw = true → i.text ∉ neverRaw))
    ⟨fun h => ⟨h.1, h.2.1, h.2.2.1, h.2.2.2⟩, fun h => ⟨h.1, h.2, h.3, h.4⟩⟩

/-! ### Words -/

theorem isIdentChar_of_isAlphanum {c : Char} (h : c.isAlphanum) : isIdentChar c := by
  simp [isIdentChar, h]

theorem isIdentChar_of_isDigit {c : Char} (h : c.isDigit) : isIdentChar c :=
  isIdentChar_of_isAlphanum (by simp [Char.isAlphanum, h])

theorem isAlphanum_toUpper {c : Char} (h : c.isAlphanum) : c.toUpper.isAlphanum := by
  by_cases halpha : c.isAlpha
  · simp [Char.isAlphanum, halpha]
  · have hlower : ¬c.isLower := fun hl => halpha (by simp [Char.isAlpha, hl])
    rwa [Char.toUpper_eq_of_not_isLower hlower]

namespace IsWord

variable {text rest : String}

theorem append_right (h : IsWord text) (hrest : ∀ c ∈ rest.toList, isIdentChar c) :
    IsWord (text ++ rest) where
  start := by
    have hstart := h.start
    cases hcs : text.toList with
    | nil => simp [hcs] at hstart
    | cons c cs => simpa [hcs] using hstart
  chars := by
    intro c hc
    rw [String.toList_append, List.mem_append] at hc
    exact hc.elim (h.chars c) (hrest c)

theorem append (h : IsWord text) (hrest : IsWord rest) : IsWord (text ++ rest) :=
  h.append_right hrest.chars

theorem ne_empty (h : IsWord text) : text ≠ "" := by
  rintro rfl
  exact absurd h.start (by decide)

/-- Characters of identifiers are a word once the digit that they may start with stands behind an
underscore. -/
theorem of_notDigitFirst {cs : List Char} (hne : cs ≠ []) (h : ∀ c ∈ cs, isIdentChar c) :
    IsWord (String.ofList (notDigitFirst cs)) := by
  cases cs with
  | nil => exact absurd rfl hne
  | cons c cs =>
    have hc := h c List.mem_cons_self
    by_cases hdigit : c.isDigit
    · rw [notDigitFirst, if_pos hdigit]
      exact ⟨by simp, by simpa using List.forall_mem_cons.2 ⟨by decide, h⟩⟩
    · rw [notDigitFirst, if_neg hdigit]
      exact ⟨by simpa [isIdentChar, Char.isAlphanum, hdigit] using hc, by simpa using h⟩

end IsWord

/-! ### Names in other cases -/

theorem isIdentChar_of_isSnakeChar {c : Char} (h : isSnakeChar c) : isIdentChar c := by
  rcases isAlphanum_or_of_isSnakeChar h with hkept | rfl
  · exact isIdentChar_of_isAlphanum hkept
  · decide

theorem IsSnake.isWord {text : String} (h : IsSnake text) : IsWord text where
  start := by
    cases hcs : text.toList with
    | nil => exact absurd (by simpa using hcs) h.ne_empty
    | cons c cs =>
      have hc := h.chars c (by simp [hcs])
      have hdigit := h.start c (by simp [hcs])
      simp only [isSnakeChar, hdigit, Bool.or_false, Bool.or_eq_true] at hc
      rcases hc with hlower | hmark
      · simp [Char.isAlpha, hlower]
      · simp [hmark]
  chars := fun c hc => isIdentChar_of_isSnakeChar (h.chars c hc)

theorem snakeCase_isWord (name : String) : IsWord (snakeCase name) :=
  (snakeCase_isSnake name).isWord

theorem isAlphanum_capitalized : ∀ (first : Bool) (cs : List Char),
    ∀ c ∈ capitalized first cs, c.isAlphanum
  | _, [] => List.forall_mem_nil _
  | first, c :: cs => by
    rw [capitalized]
    split
    · exact isAlphanum_capitalized true cs
    · split
      · next hc =>
        refine List.forall_mem_cons.2 ⟨?_, isAlphanum_capitalized false cs⟩
        cases first with
        | true => exact isAlphanum_toUpper hc
        | false => exact hc
      · exact isAlphanum_capitalized first cs

theorem isIdentChar_capitalized (first : Bool) (cs : List Char) :
    ∀ c ∈ capitalized first cs, isIdentChar c :=
  fun c hc => isIdentChar_of_isAlphanum (isAlphanum_capitalized first cs c hc)

/-- What the names of the types of an interface begin with is a word, or nothing. -/
theorem typeName_append_isWord (interface : String) {rest : String} (h : IsWord rest) :
    IsWord (typeName interface ++ rest) := by
  by_cases hnil : capitalized true interface.toList = []
  · simpa [typeName, hnil, notDigitFirst] using h
  · exact (IsWord.of_notDigitFirst hnil (isIdentChar_capitalized true _)).append h

mutual

-- The letters that stand for parentheses and braces are no type codes, but they are letters.
theorem isIdentChar_mangleChar : ∀ (t : Ty), ∀ c ∈ t.spelling, isIdentChar (mangleChar c)
  | .basic b => List.forall_mem_singleton.2 (by cases b <;> decide)
  | .variant => List.forall_mem_singleton.2 (by decide)
  | .array element => List.forall_mem_cons.2 ⟨by decide, isIdentChar_mangleChar element⟩
  | .struct fields => List.forall_mem_append.2
      ⟨List.forall_mem_cons.2 ⟨by decide, isIdentChar_mangleChar_all fields⟩,
        List.forall_mem_singleton.2 (by decide)⟩
  | .entry k v => List.forall_mem_append.2
      ⟨List.forall_mem_append.2
          ⟨List.forall_mem_cons.2 ⟨by decide, isIdentChar_mangleChar k⟩, isIdentChar_mangleChar v⟩,
        List.forall_mem_singleton.2 (by decide)⟩

theorem isIdentChar_mangleChar_all : ∀ (ts : List Ty), ∀ c ∈ Ty.spellings ts,
    isIdentChar (mangleChar c)
  | [] => List.forall_mem_nil _
  | t :: ts => List.forall_mem_append.2 ⟨isIdentChar_mangleChar t, isIdentChar_mangleChar_all ts⟩

end

/-- With letters for its parentheses and braces, a signature is made of characters of identifiers. -/
theorem isIdentChar_mangle (t : Ty) : ∀ c ∈ (mangle t.spelling).toList, isIdentChar c := by
  rw [mangle_eq, String.toList_ofList]
  exact List.forall_mem_map.2 (isIdentChar_mangleChar t)

theorem isDigit_toString (n : Nat) : ∀ c ∈ (toString n).toList, c.isDigit := by
  intro c hc
  rw [Nat.toString_eq_repr, Nat.toList_repr] at hc
  exact Nat.isDigit_of_mem_toDigits (by decide) (by decide) hc

theorem isIdentChar_toString (n : Nat) : ∀ c ∈ (toString n).toList, isIdentChar c := fun c hc =>
  isIdentChar_of_isDigit (isDigit_toString n c hc)

/-! ### Identifiers -/

namespace Ident

/-- Keywords are made of small letters, but for `Self`. -/
theorem keyword_chars {w : String} (hw : w ∈ strictKeywords ++ reservedKeywords) {c : Char}
    (hc : c ∈ w.toList) : c.isLower ∨ c = 'S' := by
  have hall : (strictKeywords ++ reservedKeywords).all fun w =>
      w.toList.all fun c => c.isLower || c == 'S' := by decide
  simpa using List.all_eq_true.1 (List.all_eq_true.1 hall w hw) c hc

/-- A word that is not marked as raw is a valid identifier if it has a character that no keyword
has. -/
theorem valid_plain {text : String} (h : IsWord text) (hne : text ≠ "_") {c : Char}
    (hc : c ∈ text.toList) (hkeyword : ¬(c.isLower ∨ c = 'S')) : (plain text).Valid where
  word := h
  ne_underscore := hne
  plain := fun _ hmem => hkeyword (keyword_chars hmem hc)
  raw := fun hraw => Bool.noConfusion hraw

theorem ne_underscore_of_mem {text : String} {c : Char} (hc : c ∈ text.toList) (hne : c ≠ '_') :
    text ≠ "_" := by
  rintro rfl
  exact hne (List.mem_singleton.1 hc)

/-- The keywords are those that are marked as raw and those that are spelled otherwise. -/
theorem keyword_cases : ∀ w ∈ strictKeywords ++ reservedKeywords, w ∈ keywords ∨ w ∈ neverIdents := by
  decide

/-- Whatever word it is, a name becomes a valid identifier. -/
theorem ofName_valid {name : String} (h : IsWord name) : (ofName name).Valid := by
  unfold ofName
  split
  · have hne : name ++ "_" ≠ "_" := fun heq => h.ne_empty (by simpa using congrArg String.toList heq)
    exact valid_plain (h.append (by decide)) hne (c := '_') (by simp) (by decide)
  · next hnever =>
    have hnever : name ∉ neverIdents := by simpa using hnever
    have hne : name ≠ "_" := fun heq => hnever (heq ▸ by decide)
    split
    · exact ⟨h, hne, fun hraw => Bool.noConfusion hraw, fun _ => hnever⟩
    · next hkeyword =>
      have hkeyword : name ∉ keywords := by simpa using hkeyword
      exact ⟨h, hne, fun _ hmem => (keyword_cases _ hmem).elim hkeyword hnever,
        fun hraw => Bool.noConfusion hraw⟩

end Ident

namespace Scope

variable (s : Scope) {name : String}

theorem claim_isWord (h : IsWord name) : IsWord (s.claim name).1 := by
  refine freshen_induction (fun n hn => hn.append (by decide)) _ _ ?_
  split
  · exact h.append (by decide)
  · exact h

theorem ident_valid (h : IsWord name) : (s.ident name).1.Valid :=
  Ident.ofName_valid (s.claim_isWord h)

theorem argument_valid (name : Option String) (index : Nat) : (s.argument name index).1.Valid := by
  have harg : IsWord ("arg" ++ toString index) :=
    IsWord.append_right (by decide) (isIdentChar_toString index)
  unfold argument
  split
  · split
    · exact s.ident_valid harg
    · exact s.ident_valid (snakeCase_isWord _)
  · exact s.ident_valid harg

end Scope

end DBus.Bindings
