import DBus.Ty
import Mathlib.Data.List.Nodup

/-!
# Types that a signature can spell

Every tree has a spelling, but only some trees are spelled by a text that is a signature: structs
have fields, dict entries stand directly in arrays and have keys without parts, and neither arrays
nor structs nest too deep. The spelling of any tree whatsoever says where it ends
(`map_spelling_append_inj`), so a text spells at most one list of trees.
-/

namespace DBus

namespace Ty

/-! ### Shape and depth -/

mutual

/-- Whether every struct in a tree has fields, and every dict entry stands directly in an array and
has a key without parts. -/
def isShaped : Ty → Bool
  | .basic _ | .variant => true
  | .array (.entry k v) => k.isBasic && isShaped v
  | .array element => isShaped element
  | .struct fields => !fields.isEmpty && areShaped fields
  | .entry _ _ => false

/-- Whether all trees of a list have such a shape. -/
def areShaped : List Ty → Bool
  | [] => true
  | t :: ts => isShaped t && areShaped ts

end

/-- Whether a type is an array. -/
def isArray : Ty → Bool
  | .array _ => true
  | _ => false

/-- Whether a type is a struct. -/
def isStruct : Ty → Bool
  | .struct _ => true
  | _ => false

mutual

/-- The greatest number of types that are counted on a path from the root of a tree. -/
def nesting (counted : Ty → Bool) : Ty → Nat
  | .basic b => (counted (.basic b)).toNat
  | .variant => (counted .variant).toNat
  | .array element => (counted (.array element)).toNat + nesting counted element
  | .struct fields => (counted (.struct fields)).toNat + nestings counted fields
  | .entry k v => (counted (.entry k v)).toNat + max (nesting counted k) (nesting counted v)

/-- The greatest such number for a list of trees. -/
def nestings (counted : Ty → Bool) : List Ty → Nat
  | [] => 0
  | t :: ts => max (nesting counted t) (nestings counted ts)

end

/-- A tree that a signature can spell. -/
structure WellFormed (t : Ty) : Prop where
  /-- Structs have fields, dict entries stand in arrays and have keys without parts. -/
  shaped : t.isShaped = true
  /-- Arrays nest at most 32 deep. -/
  arrays : t.nesting isArray ≤ 32
  /-- Structs nest at most 32 deep. -/
  structs : t.nesting isStruct ≤ 32

instance (t : Ty) : Decidable t.WellFormed :=
  decidable_of_iff (t.isShaped = true ∧ t.nesting isArray ≤ 32 ∧ t.nesting isStruct ≤ 32)
    ⟨fun h => ⟨h.1, h.2.1, h.2.2⟩, fun h => ⟨h.1, h.2, h.3⟩⟩

theorem areShaped_iff (ts : List Ty) : areShaped ts = true ↔ ∀ t ∈ ts, t.isShaped = true := by
  induction ts with
  | nil => simp [areShaped]
  | cons t ts ih => simp [areShaped, ih]

theorem nestings_le_iff (counted : Ty → Bool) (ts : List Ty) (n : Nat) :
    nestings counted ts ≤ n ↔ ∀ t ∈ ts, nesting counted t ≤ n := by
  induction ts with
  | nil => simp [nestings]
  | cons t ts ih => rw [nestings, Nat.max_le, List.forall_mem_cons, ih]

/-- A type without parts nests nothing. -/
theorem nesting_eq_zero_of_isBasic {counted : Ty → Bool} {t : Ty} (h : t.isBasic = true)
    (hc : ∀ b, counted (.basic b) = false) : nesting counted t = 0 := by
  cases t with
  | basic b => simp [nesting, hc]
  | _ => simp [isBasic, basic?] at h

/-- An array of something that is not a dict entry has the shape of its elements. -/
theorem isShaped_array {t : Ty} (h : t.isShaped = true) : (Ty.array t).isShaped = true := by
  cases t with
  | basic b | variant => rfl
  | array element | struct fields => simpa [isShaped] using h
  | entry k v => simp [isShaped] at h

/-- What stands in an array is shaped, or else a dict entry. -/
theorem isShaped_of_array {t : Ty} (h : (Ty.array t).isShaped = true) :
    t.isShaped = true ∨ ∃ k v, t = .entry k v ∧ k.isBasic = true ∧ v.isShaped = true := by
  cases t with
  | basic b | variant => exact .inl rfl
  | array element | struct fields => exact .inl (by simpa [isShaped] using h)
  | entry k v => exact .inr ⟨k, v, rfl, by simpa [isShaped] using h⟩

/-! ### Spellings -/

theorem spellings_append (ts us : List Ty) :
    spellings (ts ++ us) = spellings ts ++ spellings us := by
  induction ts with
  | nil => rfl
  | cons t ts ih => simp [spellings, ih]

/-- The character that a spelling begins with. -/
def head : Ty → Char
  | .basic b => b.code
  | .variant => 'v'
  | .array _ => 'a'
  | .struct _ => '('
  | .entry _ _ => '\x7b'

/-- All characters that a spelling may begin with. -/
def heads : List Char := ['v', 'a', '(', '\x7b'] ++ BasicType.all.map BasicType.code

theorem head_mem_heads (t : Ty) : t.head ∈ heads := by
  cases t with
  | basic b => cases b <;> decide
  | _ => simp [head, heads]

theorem spelling_eq_cons (t : Ty) : ∃ cs, t.spelling = t.head :: cs := by
  cases t <;> exact ⟨_, rfl⟩

theorem spelling_ne_nil (t : Ty) : t.spelling ≠ [] := by
  obtain ⟨cs, h⟩ := t.spelling_eq_cons
  simp [h]

/-- The characters that spell no basic type. -/
theorem code_ne (b : BasicType) :
    b.code ≠ 'v' ∧ b.code ≠ 'a' ∧ b.code ≠ '(' ∧ b.code ≠ '\x7b' := by
  cases b <;> decide

theorem code_injective {a b : BasicType} (h : a.code = b.code) : a = b := by
  have ha := BasicType.ofCode?_code a
  rw [h, BasicType.ofCode?_code] at ha
  exact (Option.some.inj ha).symm

/-- A change of characters after which spellings can still be told apart: those that begin types
stay different from each other and from the one that ends a list of fields. -/
structure Faithful (f : Char → Char) : Prop where
  begins : (heads.map f).Nodup
  ends : f ')' ∉ heads.map f

theorem faithful_id : Faithful id where
  begins := by decide
  ends := by decide

section Changed

variable {f : Char → Char}

theorem Faithful.head_eq (hf : Faithful f) {t t' : Ty} {rest rest' : List Char}
    (h : t.spelling.map f ++ rest = t'.spelling.map f ++ rest') : t.head = t'.head := by
  obtain ⟨cs, hcs⟩ := t.spelling_eq_cons
  obtain ⟨cs', hcs'⟩ := t'.spelling_eq_cons
  rw [hcs, hcs'] at h
  exact List.inj_on_of_nodup_map hf.begins t.head_mem_heads t'.head_mem_heads (List.cons.inj h).1

/-- No list of fields ends where a type begins. -/
theorem Faithful.end_ne (hf : Faithful f) (t : Ty) {cs rest rest' : List Char} :
    f ')' :: rest ≠ (t.spelling ++ cs).map f ++ rest' := by
  obtain ⟨cs', hcs⟩ := t.spelling_eq_cons
  rw [hcs]
  exact fun h => hf.ends (List.mem_map.2 ⟨t.head, t.head_mem_heads, (List.cons.inj h).1.symm⟩)

mutual

/-- The spelling of a tree determines the tree, and where in a longer text it ends, also after its
characters are changed faithfully. -/
theorem map_spelling_append_inj (hf : Faithful f) : ∀ {t t' : Ty} {rest rest' : List Char},
    t.spelling.map f ++ rest = t'.spelling.map f ++ rest' → t = t' ∧ rest = rest'
  | .basic b, t', rest, rest', h => by
    have hhead := hf.head_eq h
    obtain ⟨hv, ha, hp, hb⟩ := code_ne b
    cases t' with
    | basic b' => exact ⟨by rw [code_injective hhead], (List.cons.inj h).2⟩
    | variant => exact absurd hhead hv
    | array element => exact absurd hhead ha
    | struct fields => exact absurd hhead hp
    | entry k v => exact absurd hhead hb
  | .variant, t', rest, rest', h => by
    have hhead := hf.head_eq h
    cases t' with
    | basic b' => exact absurd hhead.symm (code_ne b').1
    | variant => exact ⟨rfl, (List.cons.inj h).2⟩
    | _ => simp [head] at hhead
  | .array element, t', rest, rest', h => by
    have hhead := hf.head_eq h
    cases t' with
    | basic b' => exact absurd hhead.symm (code_ne b').2.1
    | array element' =>
      obtain ⟨he, hr⟩ := map_spelling_append_inj hf (List.cons.inj h).2
      exact ⟨by rw [he], hr⟩
    | _ => simp [head] at hhead
  | .struct fields, t', rest, rest', h => by
    have hhead := hf.head_eq h
    cases t' with
    | basic b' => exact absurd hhead.symm (code_ne b').2.2.1
    | struct fields' =>
      simp only [spelling, List.map_cons, List.map_append, List.map_nil, List.cons_append,
        List.append_assoc, List.nil_append] at h
      obtain ⟨hfields, hr⟩ := map_spellings_append_inj hf (List.cons.inj h).2
      exact ⟨by rw [hfields], hr⟩
    | _ => simp [head] at hhead
  | .entry k v, t', rest, rest', h => by
    have hhead := hf.head_eq h
    cases t' with
    | basic b' => exact absurd hhead.symm (code_ne b').2.2.2
    | entry k' v' =>
      simp only [spelling, List.map_cons, List.map_append, List.map_nil, List.cons_append,
        List.append_assoc] at h
      obtain ⟨hk, h⟩ := map_spelling_append_inj hf (List.cons.inj h).2
      obtain ⟨hv, hr⟩ := map_spelling_append_inj hf h
      exact ⟨by rw [hk, hv], (List.cons.inj hr).2⟩
    | _ => simp [head] at hhead

/-- The spelling of a list of fields determines the list. -/
theorem map_spellings_append_inj (hf : Faithful f) :
    ∀ {ts ts' : List Ty} {rest rest' : List Char},
      (spellings ts).map f ++ f ')' :: rest = (spellings ts').map f ++ f ')' :: rest' →
        ts = ts' ∧ rest = rest'
  | [], [], _, _, h => ⟨rfl, (List.cons.inj h).2⟩
  | [], t' :: ts', _, _, h => absurd h (hf.end_ne t')
  | t :: ts, [], _, _, h => absurd h.symm (hf.end_ne t)
  | t :: ts, t' :: ts', rest, rest', h => by
    rw [spellings, spellings, List.map_append, List.map_append, List.append_assoc,
      List.append_assoc] at h
    obtain ⟨ht, h⟩ := map_spelling_append_inj hf h
    obtain ⟨hts, h⟩ := map_spellings_append_inj hf h
    exact ⟨by rw [ht, hts], h⟩

end

end Changed

theorem spellings_injective {ts us : List Ty} (h : spellings ts = spellings us) : ts = us :=
  (map_spellings_append_inj faithful_id (by rw [h]) : ts = us ∧ [] = []).1

theorem signatureOf_injective {ts us : List Ty} (h : signatureOf ts = signatureOf us) : ts = us :=
  spellings_injective (by simpa [signatureOf] using congrArg String.toList h)

/-- The signature of a list of types is made of their signatures. -/
theorem signatureOf_eq_join (ts : List Ty) : signatureOf ts = String.join (ts.map signature) := by
  have h : (String.join (ts.map signature)).toList = spellings ts := by
    induction ts with
    | nil => rfl
    | cons t ts ih => simp_all [spellings, signature]
  rw [signatureOf, ← h, String.ofList_toList]

theorem signatureOf_singleton (t : Ty) : signatureOf [t] = t.signature := by
  simp [signatureOf, signature, spellings]

end Ty

end DBus
