import DBus.Proofs.Wire.Loading

/-!
# Readers stay in their windows

Whatever the bytes are, and whether it succeeds or fails, an action leaves a reader in the window
where it was, no further back. An action that succeeds takes a number of bytes at least, so one that
is repeated comes to the end of the window.
-/

namespace DBus

/-! ### Types without empty structs -/

namespace Ty

mutual

/-- Whether every struct in a tree has fields. -/
def isFilled : Ty → Bool
  | .basic _ | .variant => true
  | .array element => isFilled element
  | .struct fields => !fields.isEmpty && areFilled fields
  | .entry key value => isFilled key && isFilled value

/-- Whether every struct in a list of trees has fields. -/
def areFilled : List Ty → Bool
  | [] => true
  | t :: ts => isFilled t && areFilled ts

end

theorem isFilled_entry {k v : Ty} :
    (Ty.entry k v).isFilled = true ↔ k.isFilled = true ∧ v.isFilled = true :=
  Bool.and_eq_true_iff

theorem isFilled_struct {ts : List Ty} :
    (Ty.struct ts).isFilled = true ↔ ts ≠ [] ∧ areFilled ts = true := by
  simp [isFilled]

theorem areFilled_cons {t : Ty} {ts : List Ty} :
    areFilled (t :: ts) = true ↔ t.isFilled = true ∧ areFilled ts = true :=
  Bool.and_eq_true_iff

mutual

/-- What a signature can spell has no empty structs. -/
theorem isFilled_of_isShaped : ∀ {t : Ty}, t.isShaped = true → t.isFilled = true
  | .basic _, _ | .variant, _ => rfl
  | .array (.basic _), _ | .array .variant, _ => rfl
  | .array (.array element), h => isFilled_of_isShaped (t := .array element) h
  | .array (.struct ts), h => isFilled_of_isShaped (t := .struct ts) h
  | .array (.entry k v), h => by
    obtain ⟨hk, hv⟩ := Bool.and_eq_true_iff.1 h
    refine isFilled_entry.2 ⟨?_, isFilled_of_isShaped hv⟩
    cases k with
    | basic b => rfl
    | _ => cases hk
  | .struct ts, h => by
    obtain ⟨hne, hts⟩ := Bool.and_eq_true_iff.1 h
    exact isFilled_struct.2 ⟨by simpa using hne, areFilled_of_areShaped hts⟩

theorem areFilled_of_areShaped : ∀ {ts : List Ty}, areShaped ts = true → areFilled ts = true
  | [], _ => rfl
  | _ :: _, h => by
    obtain ⟨ht, hts⟩ := Bool.and_eq_true_iff.1 h
    exact areFilled_cons.2 ⟨isFilled_of_isShaped ht, areFilled_of_areShaped hts⟩

end

theorem isFilled_of_parse {spelling : String} {t : Ty} (h : Ty.parse spelling = .ok t) :
    t.isFilled = true := by
  obtain ⟨-, -, hformed⟩ := parseAll_sound (parse_eq_ok_iff.1 h)
  exact isFilled_of_isShaped (hformed t (List.mem_singleton_self t)).shaped

end Ty

/-! ### Windows -/

namespace Reader

/-- The same reader, later on. -/
structure Later (r r' : Reader) : Prop where
  order_eq : r'.order = r.order
  data_eq : r'.data = r.data
  stop_eq : r'.stop = r.stop
  pos_le : r.pos ≤ r'.pos
  le_stop : r'.pos ≤ r.stop

variable {r r' r'' : Reader}

theorem Inside.later_self (h : r.Inside) : r.Later r :=
  ⟨rfl, rfl, rfl, Nat.le_refl _, h.pos_le⟩

theorem Later.inside (h : r.Later r') (hr : r.Inside) : r'.Inside := by
  refine ⟨?_, ?_⟩
  · rw [h.stop_eq]
    exact h.le_stop
  · rw [h.stop_eq, h.data_eq]
    exact hr.stop_le

theorem Later.trans (h : r.Later r') (h' : r'.Later r'') : r.Later r'' where
  order_eq := h'.order_eq.trans h.order_eq
  data_eq := h'.data_eq.trans h.data_eq
  stop_eq := h'.stop_eq.trans h.stop_eq
  pos_le := Nat.le_trans h.pos_le h'.pos_le
  le_stop := h.stop_eq ▸ h'.le_stop

theorem later_skip {n : Nat} (h : r.pos + n ≤ r.stop) : r.Later (r.skip n) :=
  ⟨rfl, rfl, rfl, Nat.le_add_right _ _, h⟩

/-- The bytes that are left become fewer as a reader goes on. -/
theorem Later.remaining_add_le {n : Nat} (h : r.Later r') (hn : r.pos + n ≤ r'.pos) :
    r'.remaining + n ≤ r.remaining := by
  have hle := h.le_stop
  rw [remaining, remaining, h.stop_eq]
  omega

/-- The first multiple of a width from the position of a reader on. -/
def aligned (r : Reader) (width : Nat) : Nat :=
  r.pos + paddingTo width r.pos

/-- The number that stands at a position. -/
def numberAt (r : Reader) (width pos : Nat) : Nat :=
  r.order.decode (r.data.extract pos (pos + width)).data.toList

/-- The length that comes next is larger than what remains behind it. -/
def Overlong (r : Reader) (width : Nat) : Prop :=
  r.stop < r.aligned width + width + r.numberAt width (r.aligned width)

end Reader

namespace Read

variable {α β : Type}

/-- An action that never leaves the window, and takes at least `n` bytes if it succeeds. -/
def Moves (n : Nat) (x : Read α) : Prop :=
  ∀ r : Reader, r.Inside →
    match x r with
    | .ok _ r' => r.Later r' ∧ r.pos + n ≤ r'.pos
    | .error _ r' => r.Later r'

section

variable {m n : Nat} {x : Read α} {f : α → Read β} {r r' : Reader}

theorem Moves.of_ok {a : α} (h : Moves n x) (hr : r.Inside) (hx : x r = .ok a r') :
    r.Later r' ∧ r.pos + n ≤ r'.pos := by
  have hmoves := h r hr
  rwa [hx] at hmoves

theorem Moves.of_error {e : Error} (h : Moves n x) (hr : r.Inside) (hx : x r = .error e r') :
    r.Later r' := by
  have hmoves := h r hr
  rwa [hx] at hmoves

theorem Moves.mono (h : Moves n x) (hle : m ≤ n) : Moves m x := by
  intro r hr
  cases hx : x r with
  | ok a r' =>
    obtain ⟨hlater, hpos⟩ := h.of_ok hr hx
    exact ⟨hlater, by omega⟩
  | error e r' => exact h.of_error hr hx

/-- The second of two actions may count on what the first one gives. -/
theorem Moves.bind_of_ok (hx : Moves m x) (hf : ∀ a r r', x r = .ok a r' → Moves n (f a)) :
    Moves (m + n) (x >>= f) := by
  intro r hr
  cases h : x r with
  | error e r₁ =>
    rw [bind_apply_of_error h]
    exact hx.of_error hr h
  | ok a r₁ =>
    obtain ⟨hlater, hpos⟩ := hx.of_ok hr h
    have hr₁ := hlater.inside hr
    rw [bind_apply_of_ok h]
    cases h' : f a r₁ with
    | error e r₂ => exact hlater.trans ((hf a r r₁ h).of_error hr₁ h')
    | ok b r₂ =>
      obtain ⟨hlater', hpos'⟩ := (hf a r r₁ h).of_ok hr₁ h'
      exact ⟨hlater.trans hlater', by omega⟩

/-- Two actions take as many bytes as each of them. -/
theorem Moves.bind (hx : Moves m x) (hf : ∀ a, Moves n (f a)) : Moves (m + n) (x >>= f) :=
  hx.bind_of_ok fun a _ _ _ => hf a

theorem Moves.pure (a : α) : Moves 0 (Pure.pure a : Read α) :=
  fun _ hr => ⟨hr.later_self, Nat.le_refl _⟩

theorem Moves.throw (n : Nat) (e : Error) : Moves n (throw e : Read α) :=
  fun _ hr => hr.later_self

theorem Moves.get : Moves 0 (get : Read Reader) :=
  fun _ hr => ⟨hr.later_self, Nat.le_refl _⟩

end

/-! ### The actions -/

theorem moves_take (n : Nat) : Moves n (take n) := by
  intro r hr
  cases h : take n r with
  | ok bytes r' =>
    obtain ⟨⟨-, rfl⟩, hroom⟩ := (take_eq_ok_iff hr).1 h
    exact ⟨Reader.later_skip hroom, Nat.le_refl _⟩
  | error e r' =>
    unfold take at h
    rw [bind_apply_of_ok (get_eq r)] at h
    split at h
    · cases h
      exact hr.later_self
    · cases h

theorem moves_align (n : Nat) : Moves 0 (align n) :=
  Moves.get.bind fun _ => ((moves_take _).bind fun _ => .pure ()).mono (Nat.zero_le _)

theorem moves_number (width : Nat) : Moves width (number width) := by
  have h := (moves_align width).bind fun _ => (moves_take width).bind fun bytes =>
    Moves.get.bind fun r => Moves.pure (r.order.decode bytes.data.toList)
  exact h.mono (by omega)

theorem moves_boolean : Moves 4 boolean := by
  refine (moves_number 4).bind fun n => (?_ : Moves 0 _)
  split
  · exact .pure false
  · exact .pure true
  · exact .throw 0 _

theorem moves_text (bytes : ByteArray) : Moves 0 (Read.text bytes) := by
  unfold Read.text
  split
  · exact .pure _
  · exact .throw 0 _

/-- A text takes its bytes, and the zero behind them. -/
theorem moves_terminated (n : Nat) : Moves (n + 1) (terminated n) := by
  refine (moves_take (n + 1)).bind fun bytes => (?_ : Moves 0 _)
  split
  · exact .throw 0 _
  · exact .pure _

theorem moves_string : Moves 5 string := by
  refine (moves_number 4).bind fun n => (?_ : Moves 1 _)
  exact ((moves_terminated n).bind fun bytes => moves_text bytes).mono (by omega)

theorem moves_objectPath : Moves 5 objectPath := by
  refine moves_string.bind fun s => (?_ : Moves 0 _)
  split
  · exact .pure _
  · exact .throw 0 _

theorem moves_signature : Moves 2 signature := by
  refine (moves_number 1).bind fun n => (?_ : Moves 1 _)
  refine ((moves_terminated n).bind fun bytes => (?_ : Moves 0 _)).mono (by omega)
  refine (moves_text bytes).bind fun s => (?_ : Moves 0 _)
  split
  · exact .pure _
  · exact .throw 0 _

theorem moves_array (elementAlign : Nat) : Moves 4 (array elementAlign) := by
  refine (moves_number 4).bind fun n => (?_ : Moves 0 _)
  dsimp only
  split
  · exact .throw 0 (.arrayTooLong n)
  · refine (moves_align elementAlign).bind fun _ => (?_ : Moves 0 _)
    refine Moves.get.bind fun r => (?_ : Moves 0 _)
    refine ((moves_take n).bind fun _ => (?_ : Moves 0 _)).mono (Nat.zero_le _)
    exact Moves.get.bind fun r' => .pure _

theorem moves_arrayOf (elementAlign : Nat) (step : Read α) :
    Moves 4 (arrayOf elementAlign step) := by
  refine (moves_array elementAlign).bind fun elements => (?_ : Moves 0 _)
  split
  · exact .pure _
  · exact .throw 0 _

theorem moves_arrayHead (elementAlign : Nat) : Moves 4 (arrayHead elementAlign) :=
  (moves_number 4).bind fun _ => (moves_align elementAlign).bind fun _ => .pure _

/-- The reader of the elements of an array. Its window ends where the array ends. -/
theorem window_of_array {elementAlign : Nat} {r elements r' : Reader} (hr : r.Inside)
    (h : array elementAlign r = .ok elements r') :
    elements.Inside ∧ r.pos + 4 ≤ elements.pos ∧ elements.stop = r'.pos := by
  obtain ⟨n, r₁, hhead, -, hroom, rfl, rfl⟩ := (array_eq_ok_iff hr).1 h
  obtain ⟨hlater, hpos⟩ := (moves_arrayHead elementAlign).of_ok hr hhead
  have hr₁ := hlater.inside hr
  exact ⟨⟨Nat.le_add_right _ _, Nat.le_trans hroom hr₁.stop_le⟩, hpos, rfl⟩

theorem moves_basic (b : BasicType) : Moves 1 (basic b) := by
  cases b with
  | byte => exact (moves_number 1).bind fun _ => .pure _
  | boolean => exact (moves_boolean.bind fun _ => .pure _).mono (by decide)
  | int16 | uint16 => exact ((moves_number 2).bind fun _ => .pure _).mono (by decide)
  | int32 | uint32 | unixFd => exact ((moves_number 4).bind fun _ => .pure _).mono (by decide)
  | int64 | uint64 | double => exact ((moves_number 8).bind fun _ => .pure _).mono (by decide)
  | string => exact (moves_string.bind fun _ => .pure _).mono (by decide)
  | objectPath => exact (moves_objectPath.bind fun _ => .pure _).mono (by decide)
  | signature => exact (moves_signature.bind fun _ => .pure _).mono (by decide)

theorem moves_typeOf (spelling : String) : Moves 0 (typeOf spelling) := by
  unfold typeOf
  split
  · exact .pure _
  · exact .throw 0 _

/-! ### Lengths -/

section

variable {r r' : Reader}

theorem align_eq_ok_iff {n : Nat} (hr : r.Inside) :
    align n r = .ok () r' ↔ r.aligned n ≤ r.stop ∧ r' = { r with pos := r.aligned n } := by
  unfold align
  rw [bind_apply_of_ok (get_eq r), bind_apply_eq_ok_iff]
  constructor
  · rintro ⟨bytes, r₁, htake, ⟨⟩⟩
    obtain ⟨⟨-, rfl⟩, hroom⟩ := (take_eq_ok_iff hr).1 htake
    exact ⟨hroom, rfl⟩
  · rintro ⟨hroom, rfl⟩
    exact ⟨_, _, (take_eq_ok_iff hr).2 ⟨⟨rfl, rfl⟩, hroom⟩, rfl⟩

theorem number_eq_ok_iff {width n : Nat} (hr : r.Inside) :
    number width r = .ok n r' ↔ r.aligned width + width ≤ r.stop ∧
      n = r.numberAt width (r.aligned width) ∧ r' = { r with pos := r.aligned width + width } := by
  unfold number
  rw [bind_apply_eq_ok_iff]
  constructor
  · rintro ⟨_, r₁, halign, h⟩
    obtain ⟨hle, rfl⟩ := (align_eq_ok_iff hr).1 halign
    obtain ⟨bytes, r₂, htake, ⟨⟩⟩ := bind_apply_eq_ok_iff.1 h
    obtain ⟨⟨rfl, rfl⟩, hroom⟩ := (take_eq_ok_iff (r := { r with pos := r.aligned width })
      ⟨hle, hr.stop_le⟩).1 htake
    exact ⟨hroom, rfl, rfl⟩
  · rintro ⟨hroom, rfl, rfl⟩
    have hle : r.aligned width ≤ r.stop := by omega
    refine ⟨(), _, (align_eq_ok_iff hr).2 ⟨hle, rfl⟩, ?_⟩
    exact bind_apply_of_ok ((take_eq_ok_iff (r := { r with pos := r.aligned width })
      ⟨hle, hr.stop_le⟩).2 ⟨⟨rfl, rfl⟩, hroom⟩)

/-- Where the elements of an array begin that comes next. -/
def firstOf (r : Reader) (elementAlign : Nat) : Nat :=
  r.aligned 4 + 4 + paddingTo elementAlign (r.aligned 4 + 4)

theorem arrayHead_eq_ok_iff {elementAlign n : Nat} (hr : r.Inside) :
    arrayHead elementAlign r = .ok n r' ↔ firstOf r elementAlign ≤ r.stop ∧
      n = r.numberAt 4 (r.aligned 4) ∧ r' = { r with pos := firstOf r elementAlign } := by
  unfold arrayHead
  rw [bind_apply_eq_ok_iff]
  constructor
  · rintro ⟨k, r₁, hnumber, h⟩
    obtain ⟨hroom, rfl, rfl⟩ := (number_eq_ok_iff hr).1 hnumber
    obtain ⟨_, r₂, halign, ⟨⟩⟩ := bind_apply_eq_ok_iff.1 h
    obtain ⟨hle, rfl⟩ := (align_eq_ok_iff (r := { r with pos := r.aligned 4 + 4 })
      ⟨hroom, hr.stop_le⟩).1 halign
    exact ⟨hle, rfl, rfl⟩
  · rintro ⟨hle, rfl, rfl⟩
    have hroom : r.aligned 4 + 4 ≤ r.stop := Nat.le_trans (Nat.le_add_right _ _) hle
    refine ⟨_, _, (number_eq_ok_iff hr).2 ⟨hroom, rfl, rfl⟩, ?_⟩
    exact bind_apply_of_ok ((align_eq_ok_iff (r := { r with pos := r.aligned 4 + 4 })
      ⟨hroom, hr.stop_le⟩).2 ⟨hle, rfl⟩)

/-- The reader of the elements of an array has just as many bytes as the length says. -/
theorem array_eq_ok_iff_length {elementAlign : Nat} {elements : Reader} (hr : r.Inside) :
    array elementAlign r = .ok elements r' ↔
      r.numberAt 4 (r.aligned 4) ≤ maxArrayLength ∧
        firstOf r elementAlign + r.numberAt 4 (r.aligned 4) ≤ r.stop ∧
        elements = { r with
          pos := firstOf r elementAlign
          stop := firstOf r elementAlign + r.numberAt 4 (r.aligned 4) } ∧
        r' = { r with pos := firstOf r elementAlign + r.numberAt 4 (r.aligned 4) } := by
  rw [array_eq_ok_iff hr]
  constructor
  · rintro ⟨n, r₁, hhead, hn, hroom, rfl, rfl⟩
    obtain ⟨-, rfl, rfl⟩ := (arrayHead_eq_ok_iff hr).1 hhead
    exact ⟨hn, hroom, rfl, rfl⟩
  · rintro ⟨hn, hroom, rfl, rfl⟩
    have hle : firstOf r elementAlign ≤ r.stop := Nat.le_trans (Nat.le_add_right _ _) hroom
    exact ⟨_, _, (arrayHead_eq_ok_iff hr).2 ⟨hle, rfl, rfl⟩, hn, hroom, rfl, rfl⟩

end

/-- An action that fails if the length that comes next is larger than what remains. -/
def Heeds (width : Nat) (x : Read α) : Prop :=
  ∀ (r : Reader) (a : α) (r' : Reader), r.Inside → r.Overlong width → x r ≠ .ok a r'

theorem Heeds.bind {width : Nat} {x : Read α} {f : α → Read β} (h : Heeds width x) :
    Heeds width (x >>= f) := by
  intro r b r' hr hover hok
  obtain ⟨a, r₁, hx, -⟩ := bind_apply_eq_ok_iff.1 hok
  exact h r a r₁ hr hover hx

theorem heeds_array (elementAlign : Nat) : Heeds 4 (array elementAlign) := by
  intro r elements r' hr hover hok
  obtain ⟨-, hroom, -⟩ := (array_eq_ok_iff_length hr).1 hok
  have hle : r.aligned 4 + 4 ≤ firstOf r elementAlign := Nat.le_add_right _ _
  rw [Reader.Overlong] at hover
  omega

/-- A text needs one byte more than its length says. -/
theorem heeds_terminated (width : Nat) (f : ByteArray → Read α) :
    Heeds width (number width >>= fun n => terminated n >>= f) := by
  intro r a r' hr hover hok
  obtain ⟨n, r₁, hnumber, hok⟩ := bind_apply_eq_ok_iff.1 hok
  obtain ⟨hroom, rfl, rfl⟩ := (number_eq_ok_iff hr).1 hnumber
  obtain ⟨bytes, r₂, hbytes, -⟩ := bind_apply_eq_ok_iff.1 hok
  obtain ⟨bytes', r₃, htake, -⟩ := bind_apply_eq_ok_iff.1 hbytes
  have hle := ((take_eq_ok_iff (r := { r with pos := r.aligned width + width })
    ⟨hroom, hr.stop_le⟩).1 htake).2
  rw [Reader.Overlong] at hover
  dsimp only at hle
  omega

theorem heeds_signature : Heeds 1 signature :=
  heeds_terminated 1 _

theorem heeds_basic {b : BasicType} (hb : b.isText = true) : Heeds b.alignment (basic b) := by
  have hstring : Heeds 4 string := heeds_terminated 4 _
  cases b with
  | string => exact hstring.bind
  | objectPath => exact hstring.bind.bind
  | signature => exact heeds_signature.bind
  | _ => cases hb

/-! ### Values -/

theorem moves_list (elementAlign : Nat) (step : Read α) (f : List α → Value) :
    Moves 1 (arrayOf elementAlign step >>= fun found => Pure.pure (f found)) :=
  ((moves_arrayOf elementAlign step).bind fun _ => .pure _).mono (by decide)

section

variable {nested : Read Value}

mutual

/-- A value takes at least one byte, if a variant does. -/
theorem moves_typed (hnested : Moves 1 nested) :
    ∀ {t : Ty}, t.isFilled = true → Moves 1 (typed nested t)
  | .basic b, _ => moves_basic b
  | .variant, _ => hnested.bind fun _ => .pure _
  | .array (.basic _), _ | .array .variant, _ | .array (.array _), _ | .array (.struct _), _
  | .array (.entry _ _), _ => moves_list _ _ _
  | .struct ts, h => by
    obtain ⟨hne, hts⟩ := Ty.isFilled_struct.1 h
    have hlength : 0 < ts.length := List.length_pos_iff.2 hne
    have hfields := (moves_align 8).bind fun _ =>
      (moves_typedAll hnested hts).bind fun vs => Moves.pure (Value.struct vs)
    exact hfields.mono (by omega)
  | .entry _ _, _ => .throw 1 _

theorem moves_typedAll (hnested : Moves 1 nested) :
    ∀ {ts : List Ty}, Ty.areFilled ts = true → Moves ts.length (typedAll nested ts)
  | [], _ => .pure []
  | t :: ts, h => by
    obtain ⟨ht, hts⟩ := Ty.areFilled_cons.1 h
    have hfields := (moves_typed hnested ht).bind fun v =>
      (moves_typedAll hnested hts).bind fun vs => Moves.pure (v :: vs)
    exact hfields.mono (by rw [List.length_cons]; omega)

end

end

/-- The type that a variant names for its value. -/
def variantType : Read Ty := do
  typeOf (← signature).text

theorem heeds_variantType : Heeds 1 variantType :=
  heeds_signature.bind

theorem moves_variantType : Moves 2 variantType :=
  moves_signature.bind fun s => moves_typeOf s.text

/-- The type of a variant has no empty structs. -/
theorem isFilled_of_variantType {t : Ty} {r r' : Reader} (h : variantType r = .ok t r') :
    t.isFilled = true := by
  obtain ⟨s, r₁, -, htype⟩ := bind_apply_eq_ok_iff.1 h
  unfold typeOf at htype
  cases hparse : Ty.parse s.text with
  | error e =>
    rw [hparse] at htype
    cases htype
  | ok t' =>
    rw [hparse] at htype
    cases htype
    exact Ty.isFilled_of_parse hparse

/-- Reads the value of a variant, if `depth` variants may be nested there, the one that it is in
included. -/
def inVariant : (depth : Nat) → Ty → Read Value
  | 0, _ => throw .variantTooDeep
  | depth + 1, t => typed (variantWithin depth) t

theorem variantWithin_eq : ∀ depth : Nat, variantWithin depth = variantType >>= inVariant depth
  | 0 | _ + 1 => (bind_assoc _ _ _).symm

mutual

/-- A variant takes its signature, and behind it a value. -/
theorem moves_variantWithin (depth : Nat) : Moves 2 (variantWithin depth) := by
  rw [variantWithin_eq]
  exact moves_variantType.bind_of_ok fun t _ _ htype =>
    (moves_inVariant depth (isFilled_of_variantType htype)).mono (Nat.zero_le 1)
  termination_by 2 * depth + 1

theorem moves_inVariant (depth : Nat) {t : Ty} (h : t.isFilled = true) :
    Moves 1 (inVariant depth t) := by
  cases depth with
  | zero => exact .throw 1 _
  | succ depth => exact moves_typed ((moves_variantWithin depth).mono (by decide)) h
  termination_by 2 * depth

end

theorem moves_value {t : Ty} (h : t.isFilled = true) : Moves 1 (value t) :=
  moves_typed ((moves_variantWithin _).mono (by decide)) h

end Read

end DBus
