import Mathlib
import DBus.Proofs.Wire.RoundTrip
import DBus.Proofs.Wire.Storing

/-!
# The grammar of paths

A path is a slash, or one or more names with a slash before each, a name being one or more letters,
digits and underscores. The scan of the bytes remembers one flag and finds just that. So every path
that was made of a text, or read from a body, follows the grammar, and it is read back from wherever
it is written to.
-/

namespace DBus

namespace ObjectPath

/-! ### The grammar -/

/-- The letters and digits of ASCII, and the underscore. -/
def IsWordByte (b : UInt8) : Prop :=
  (Char.ofUInt8 b).isAlphanum = true ∨ b = '_'.toUInt8

/-- The name of a component. -/
structure IsName (name : List UInt8) : Prop where
  ne_nil : name ≠ []
  word : ∀ b ∈ name, IsWordByte b

/-- Names with a slash before each. -/
def joined (names : List (List UInt8)) : List UInt8 :=
  names.flatMap (slash :: ·)

/-- What a path looks like. -/
def Spelled (bytes : List UInt8) : Prop :=
  bytes = [slash] ∨ ∃ names, names ≠ [] ∧ (∀ name ∈ names, IsName name) ∧ bytes = joined names

/-! ### The scan -/

theorem isComponentByte_iff {b : UInt8} : isComponentByte b = true ↔ IsWordByte b := by
  simp only [isComponentByte, IsWordByte, Char.isAlphanum, Char.isAlpha, Char.isUpper, Char.isLower,
    Char.isDigit, UInt8.le_iff_toNat_le, UInt32.le_iff_toNat_le, Bool.or_eq_true, Bool.and_eq_true,
    decide_eq_true_eq, beq_iff_eq, ge_iff_le]
  rw [show (Char.ofUInt8 b).val.toNat = b.toNat from UInt8.toNat_toUInt32 b]
  exact Iff.rfl

theorem not_isWordByte_slash : ¬IsWordByte slash := by
  rw [← isComponentByte_iff]
  decide

@[simp] theorem joined_cons (name : List UInt8) (names : List (List UInt8)) :
    joined (name :: names) = slash :: (name ++ joined names) :=
  List.flatMap_cons

/-- The first byte of a name and of what is joined to it. -/
theorem append_joined_eq_cons_iff {first : List UInt8} {names : List (List UInt8)} {b : UInt8}
    {rest : List UInt8} :
    b :: rest = first ++ joined names ↔
      (∃ tail, first = b :: tail ∧ rest = tail ++ joined names) ∨
        first = [] ∧ b = slash ∧ ∃ name others, names = name :: others ∧
          rest = name ++ joined others := by
  cases first with
  | nil => cases names <;> simp [joined]
  | cons c tail => simp [and_assoc, eq_comm]

/-- What follows a slash begins with the rest of a name, which is not empty unless the name has
begun already. -/
theorem componentsFrom_iff {begun : Bool} {bytes : List UInt8} :
    componentsFrom begun bytes = true ↔
      ∃ first names, (∀ b ∈ first, IsWordByte b) ∧ (begun = true ∨ first ≠ []) ∧
        (∀ name ∈ names, IsName name) ∧ bytes = first ++ joined names := by
  induction bytes generalizing begun with
  | nil =>
    constructor
    · intro h
      exact ⟨[], [], nofun, .inl h, nofun, rfl⟩
    · rintro ⟨first, names, -, hbegun, -, hnil⟩
      obtain ⟨rfl, -⟩ := List.append_eq_nil_iff.1 hnil.symm
      exact hbegun.resolve_right (· rfl)
  | cons b rest ih =>
    rw [componentsFrom]
    simp only [append_joined_eq_cons_iff]
    split
    -- the name goes on
    · next hb =>
      rw [isComponentByte_iff] at hb
      rw [ih]
      constructor
      · rintro ⟨first, names, hfirst, -, hnames, hrest⟩
        exact ⟨b :: first, names, List.forall_mem_cons.2 ⟨hb, hfirst⟩, .inr (List.cons_ne_nil _ _),
          hnames, .inl ⟨first, rfl, hrest⟩⟩
      · rintro ⟨first, names, hfirst, -, hnames, ⟨tail, rfl, hrest⟩ | ⟨-, rfl, -⟩⟩
        · exact ⟨tail, names, (List.forall_mem_cons.1 hfirst).2, .inl rfl, hnames, hrest⟩
        · exact absurd hb not_isWordByte_slash
    -- the name ends, and another one must begin
    · next hb =>
      rw [isComponentByte_iff] at hb
      rw [Bool.and_eq_true, Bool.and_eq_true, beq_iff_eq, ih]
      constructor
      · rintro ⟨⟨rfl, hbegun⟩, name, names, hword, hne, hnames, hrest⟩
        have hname : IsName name := ⟨hne.resolve_left Bool.false_ne_true, hword⟩
        exact ⟨[], name :: names, nofun, .inl hbegun, List.forall_mem_cons.2 ⟨hname, hnames⟩,
          .inr ⟨rfl, rfl, name, names, rfl, hrest⟩⟩
      · rintro ⟨first, names, hfirst, hbegun, hnames,
          ⟨tail, rfl, -⟩ | ⟨rfl, rfl, name, others, rfl, hrest⟩⟩
        · exact absurd (List.forall_mem_cons.1 hfirst).1 hb
        · obtain ⟨hname, hothers⟩ := List.forall_mem_cons.1 hnames
          exact ⟨⟨rfl, hbegun.resolve_right (· rfl)⟩, name, others, hname.word, .inr hname.ne_nil,
            hothers, hrest⟩

/-- The scan accepts what the grammar allows. -/
theorem isValidBytes_iff {bytes : List UInt8} : isValidBytes bytes = true ↔ Spelled bytes := by
  unfold Spelled
  cases bytes with
  | nil =>
    refine ⟨nofun, ?_⟩
    rintro (hroot | ⟨names, hne, -, hnil⟩)
    · cases hroot
    · obtain ⟨name, others, rfl⟩ := List.exists_cons_of_ne_nil hne
      cases hnil
  | cons b rest =>
    rw [isValidBytes, Bool.and_eq_true, beq_iff_eq, Bool.or_eq_true, List.isEmpty_iff,
      componentsFrom_iff]
    constructor
    · rintro ⟨rfl, rfl | ⟨name, names, hword, hne, hnames, rfl⟩⟩
      · exact .inl rfl
      · have hname : IsName name := ⟨hne.resolve_left Bool.false_ne_true, hword⟩
        exact .inr ⟨name :: names, List.cons_ne_nil _ _, List.forall_mem_cons.2 ⟨hname, hnames⟩,
          (joined_cons ..).symm⟩
    · rintro (hroot | ⟨names, hne, hnames, hbytes⟩)
      · cases hroot
        exact ⟨rfl, .inl rfl⟩
      · obtain ⟨name, others, rfl⟩ := List.exists_cons_of_ne_nil hne
        obtain ⟨hname, hothers⟩ := List.forall_mem_cons.1 hnames
        rw [joined_cons] at hbytes
        cases hbytes
        exact ⟨rfl, .inr ⟨name, others, hname.word, .inr hname.ne_nil, hothers, rfl⟩⟩

theorem ofString?_eq_some_iff {s : String} {p : ObjectPath} :
    ofString? s = some p ↔ p.text = s := by
  unfold ofString?
  split
  · next h =>
    rw [Option.some.injEq]
    exact ⟨fun hp => hp ▸ rfl, fun hp => by cases p; cases hp; rfl⟩
  · next h => exact ⟨nofun, fun hp => absurd (hp ▸ p.valid) h⟩

/-- The texts that paths are made of. -/
theorem exists_ofString?_iff {s : String} :
    (∃ p, ofString? s = some p) ↔ Spelled (Bytes.utf8 s) := by
  rw [← isValidBytes_iff]
  constructor
  · rintro ⟨p, hp⟩
    rw [← ofString?_eq_some_iff.1 hp]
    exact p.valid
  · intro h
    exact ⟨⟨s, h⟩, ofString?_eq_some_iff.2 rfl⟩

/-! ### Paths in bodies -/

/-- A path is read where its text is. -/
theorem read_eq_ok_iff {p : ObjectPath} {r r' : Reader} :
    Read.objectPath r = .ok p r' ↔ Read.string r = .ok p.text r' := by
  unfold Read.objectPath
  rw [bind_apply_eq_ok_iff]
  constructor
  · rintro ⟨s, r₁, hstring, h⟩
    cases hp : ofString? s with
    | none =>
      rw [hp] at h
      cases h
    | some q =>
      rw [hp] at h
      cases h
      rwa [ofString?_eq_some_iff.1 hp]
  · intro hstring
    refine ⟨p.text, r', hstring, ?_⟩
    rw [ofString?_eq_some_iff.2 rfl]
    rfl

/-- A path goes into every body that has room for it. -/
theorem exists_write (p : ObjectPath) {w : Writer}
    (hroom : w.length + (Layout.text 4 p.text).size w.order w.length ≤ maxBodyLength) :
    ∃ w', Write.objectPath p w = .ok () w' := by
  have hlength : p.text.toUTF8.size < UInt32.size := by
    have hmax : maxBodyLength < UInt32.size := by decide
    rw [Layout.size_text] at hroom
    omega
  exact ⟨_, Write.Writes.string p.zero_not_mem_utf8 hlength w rfl rfl hroom⟩

/-- A path that was written is read where it stands, whatever stands before and behind it. -/
theorem read_of_write {p : ObjectPath} {w w' : Writer} (h : Write.objectPath p w = .ok () w')
    (rest : ByteArray) :
    let r := Reader.new w.order (w'.bytes ++ rest)
    Read.objectPath (r.skip w.length) = .ok p (r.skip w'.length) := by
  intro r
  obtain ⟨⟨rfl, -⟩, -, hlength⟩ := Write.string_eq_ok_iff.1 h
  have hread := Read.Reads.objectPath hlength (r.skip w.length) _ rfl (Nat.zero_add _)
    (Read.holds_append w _ rest)
  rw [Writer.length_append, ← Reader.skip_skip]
  exact hread

/-- The scan finds just what the grammar allows. So a path is made of a text, and read from a body,
just where the text follows the grammar; no path holds a zero, and each is read back from wherever
it is written to. -/
theorem paths_follow_grammar :
    (∀ bytes, isValidBytes bytes = true ↔ Spelled bytes) ∧
      (∀ s, (∃ p, ofString? s = some p ∧ p.text = s) ↔ Spelled (Bytes.utf8 s)) ∧
      (∀ r r', (∃ p, Read.objectPath r = .ok p r') ↔
        ∃ s, Read.string r = .ok s r' ∧ Spelled (Bytes.utf8 s)) ∧
      ∀ p : ObjectPath, Spelled (Bytes.utf8 p.text) ∧ 0 ∉ Bytes.utf8 p.text ∧
        ofString? p.text = some p ∧
        ∀ (w : Writer) (rest : ByteArray),
          w.length + (Layout.text 4 p.text).size w.order w.length ≤ maxBodyLength →
            ∃ w', Write.objectPath p w = .ok () w' ∧
              let r := Reader.new w.order (w'.bytes ++ rest)
              Read.objectPath (r.skip w.length) = .ok p (r.skip w'.length) := by
  have hspelled : ∀ p : ObjectPath, Spelled (Bytes.utf8 p.text) :=
    fun p => isValidBytes_iff.1 p.valid
  refine ⟨fun bytes => isValidBytes_iff, fun s => ?_, fun r r' => ?_, fun p => ?_⟩
  · rw [← exists_ofString?_iff]
    exact exists_congr fun p => and_iff_left_of_imp ofString?_eq_some_iff.1
  · constructor
    · rintro ⟨p, hp⟩
      exact ⟨p.text, read_eq_ok_iff.1 hp, hspelled p⟩
    · rintro ⟨s, hs, h⟩
      obtain ⟨p, hp⟩ := exists_ofString?_iff.2 h
      rw [← ofString?_eq_some_iff.1 hp] at hs
      exact ⟨p, read_eq_ok_iff.2 hs⟩
  · refine ⟨hspelled p, p.zero_not_mem_utf8, ofString?_eq_some_iff.2 rfl, fun w rest hroom => ?_⟩
    obtain ⟨w', hw'⟩ := exists_write p hroom
    exact ⟨w', hw', read_of_write hw' rest⟩

/-- A path of two components. -/
def porchPath : ObjectPath := ⟨"/house/porch_1", by decide +kernel⟩

/-- The path goes behind three bytes, and is read back from there. -/
theorem porchPath_reread :
    isValidBytes (Bytes.utf8 "/house//porch_1") = false ∧
      ∃ w', Write.objectPath porchPath ⟨.big, ⟨#[9, 9, 9]⟩⟩ = .ok () w' ∧
        Read.objectPath ((Reader.new .big (w'.bytes ++ ⟨#[7]⟩)).skip 3)
          = .ok porchPath ((Reader.new .big (w'.bytes ++ ⟨#[7]⟩)).skip w'.length) := by
  obtain ⟨-, -, -, hpaths⟩ := paths_follow_grammar
  obtain ⟨-, -, -, hbodies⟩ := hpaths porchPath
  exact ⟨by decide +kernel, hbodies ⟨.big, ⟨#[9, 9, 9]⟩⟩ ⟨#[7]⟩ (by decide +kernel)⟩

end ObjectPath

end DBus
