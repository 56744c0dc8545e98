import DBus.Proofs.Wire.Decoding
import DBus.Proofs.Wire.Ending

/-!
# Readers and the readers of their arrays

Who takes a body apart has many readers in the end: one for the body, and one for every array that
was opened. They are read from in any order, and go on after failures. Whatever is read and whatever
the bytes are, every reader stays in its window, and none of them disturbs another one.
-/

namespace DBus

open Read (variantWithin inVariant firstOf)

namespace Read

/-- The type that a variant names for its value, which must be the expected one. -/
def expectedType (expected : String) : Read Ty := do
  let s ← signature
  if s.text ≠ expected then throw (.unexpectedSignature expected s.text)
  typeOf s.text

theorem variantOf_eq (expected : String) :
    variantOf expected = expectedType expected >>= inVariant maxVariantDepth := by
  unfold variantOf expectedType
  rw [bind_assoc]
  refine bind_congr fun s => ?_
  by_cases h : s.text = expected
  · simp only [h, ne_eq, not_true_eq_false, if_false]
    rfl
  · simp only [ne_eq, h, not_false_eq_true, if_true]
    rfl

/-- A type that is expected is the one that is named. -/
theorem variantType_of_expectedType {expected : String} {t : Ty} {r r' : Reader}
    (h : expectedType expected r = .ok t r') : variantType r = .ok t r' := by
  obtain ⟨s, r₁, hsignature, h⟩ := bind_apply_eq_ok_iff.1 h
  refine bind_apply_eq_ok_iff.2 ⟨s, r₁, hsignature, ?_⟩
  by_cases hs : s.text = expected
  · simpa [hs] using h
  · simp [hs] at h
    cases h

theorem moves_expectedType (expected : String) : Moves 2 (expectedType expected) := by
  refine moves_signature.bind fun s => (?_ : Moves 0 _)
  dsimp only
  split
  · exact .throw 0 (.unexpectedSignature expected s.text)
  · exact moves_typeOf s.text

/-- An expected variant takes as much as any. -/
theorem moves_variantOf (expected : String) : Moves 3 (variantOf expected) := by
  rw [variantOf_eq]
  exact (moves_expectedType expected).bind_of_ok fun t _ _ htype =>
    moves_inVariant _ (isFilled_of_variantType (variantType_of_expectedType htype))

/-- A variant that is the expected one is a variant. -/
theorem variant_of_variantOf {expected : String} {v : Value} {r r' : Reader}
    (h : variantOf expected r = .ok v r') : variant r = .ok v r' := by
  rw [variantOf_eq] at h
  obtain ⟨t, r₁, htype, hvalue⟩ := bind_apply_eq_ok_iff.1 h
  rw [variant, variantWithin_eq]
  exact bind_apply_eq_ok_iff.2 ⟨t, r₁, variantType_of_expectedType htype, hvalue⟩

end Read

namespace Ty

/-- The width of the length with which values begin, if they begin with one. -/
def lengthWidth? : Ty → Option Nat
  | .basic b => if b.isText then some b.alignment else none
  | .variant => some 1
  | .array _ => some 4
  | .struct _ | .entry _ _ => none

end Ty

namespace Read

theorem heeds_typed {nested : Read Value} (hnested : nested.Heeds 1) {t : Ty} {width : Nat}
    (h : t.lengthWidth? = some width) : (typed nested t).Heeds width := by
  cases t with
  | basic b =>
    rw [Ty.lengthWidth?] at h
    split at h
    · next hb =>
      cases h
      exact heeds_basic hb
    · cases h
  | variant =>
    cases h
    exact hnested.bind
  | array element =>
    cases h
    cases element <;> exact (heeds_array _).bind.bind
  | struct ts | entry k v => cases h

theorem heeds_variantWithin (depth : Nat) : (variantWithin depth).Heeds 1 := by
  rw [variantWithin_eq]
  exact heeds_variantType.bind

end Read

namespace Cursor

/-- Loads a variant whose signature must be the expected one. -/
def variantOf (expected : String) (fuel : Nat) : Loading Value := do
  nested fuel (← reading (Read.expectedType expected))

/-! ### Loads -/

/-- What can be done with a reader. -/
inductive Load where
  /-- Loads a value of a type without empty structs. -/
  | value (t : Ty) (filled : t.isFilled = true)
  | variant
  | variantOf (expected : String)
  /-- Skips the padding to a multiple of a power of two. -/
  | align (exponent : Nat)
  /-- Opens an array whose elements are aligned to a power of two. -/
  | array (exponent : Nat)

/-- What a load gives. -/
inductive Loaded where
  | nothing
  | value (v : Value)
  /-- The reader of the elements of an array. -/
  | elements (r : Reader)

namespace Load

/-- Does a load with a cursor. -/
def run (load : Load) (fuel : Nat) : Loading Loaded :=
  match load with
  | .value t _ => do return .value (← Cursor.value fuel t)
  | .variant => do return .value (← Cursor.variant fuel)
  | .variantOf expected => do return .value (← Cursor.variantOf expected fuel)
  | .align k => do
    reading (Read.align (2 ^ k))
    return .nothing
  | .array k => do return .elements (← reading (Read.array (2 ^ k)))

/-- The action of the reader that a load is. -/
def read : Load → Read Loaded
  | .value t _ => do return .value (← Read.value t)
  | .variant => do return .value (← Read.variant)
  | .variantOf expected => do return .value (← Read.variantOf expected)
  | .align k => do
    Read.align (2 ^ k)
    return .nothing
  | .array k => do return .elements (← Read.array (2 ^ k))

theorem moves_read (load : Load) : load.read.Moves 0 := by
  cases load with
  | value t h => exact ((Read.moves_value h).bind fun _ => .pure _).mono (Nat.zero_le _)
  | variant => exact ((Read.moves_variantWithin _).bind fun _ => .pure _).mono (Nat.zero_le _)
  | variantOf expected =>
    exact ((Read.moves_variantOf expected).bind fun _ => .pure _).mono (Nat.zero_le _)
  | align k => exact (Read.moves_align _).bind fun _ => .pure _
  | array k => exact ((Read.moves_array _).bind fun _ => .pure _).mono (Nat.zero_le _)

/-- A load ends. -/
theorem ends_run {c : Cursor} (hc : c.Sound maxVariantDepth) (load : Load) :
    Ends load.read c load.run := by
  cases load with
  | value t h => exact (ends_value (fun c hc => ends_variant _ hc) h hc).map Loaded.value
  | variant => exact (ends_variant _ hc).map Loaded.value
  | variantOf expected =>
    refine Ends.map Loaded.value ?_
    rw [Read.variantOf_eq]
    refine (hc.ends_reading _).bind hc (Read.moves_expectedType expected) fun t c htype hc => ?_
    exact ends_nested _ (Read.isFilled_of_variantType (Read.variantType_of_expectedType htype)) hc
  | align k => exact (hc.ends_reading _).map fun _ => Loaded.nothing
  | array k => exact (hc.ends_reading _).map Loaded.elements

/-- The width of the length with which a load begins. -/
def lengthWidth? : Load → Option Nat
  | .value t _ => t.lengthWidth?
  | .variant | .variantOf _ => some 1
  | .align _ => none
  | .array _ => some 4

theorem heeds_read {load : Load} {width : Nat} (h : load.lengthWidth? = some width) :
    load.read.Heeds width := by
  cases load with
  | value t ht => exact (Read.heeds_typed (Read.heeds_variantWithin _) h).bind
  | variant =>
    cases h
    exact (Read.heeds_variantWithin _).bind
  | variantOf expected =>
    cases h
    exact Read.heeds_signature.bind.bind
  | align k => cases h
  | array k =>
    cases h
    exact (Read.heeds_array _).bind

/-- A value that has been loaded, with the variant that it was in. -/
def whole : Load → Value → Value
  | .variant, v | .variantOf _, v => .variant v
  | _, v => v

/-- A variant that has been found. -/
theorem found_of_variant {v : Value} {r r' : Reader} (hr : r.Inside)
    (h : Read.variant r = .ok v r') :
    r.Shows ((Value.variant v).template.slotsAt r.order r.pos) ∧
      r' = r.skip ((Value.variant v).template.size r.order r.pos) := by
  have hread : Read.value .variant r = .ok (.variant v) r' := (bind_apply_of_ok h).trans rfl
  obtain ⟨-, hfound⟩ := (Read.value_decodes .variant).found hr hread
  exact ⟨hfound.shows, hfound.eq_skip⟩

/-- The bytes that were taken are those of the value, each length being that of what stands behind
it. -/
theorem found_of_read {load : Load} {v : Value} {r r' : Reader} (hr : r.Inside)
    (h : load.read r = .ok (.value v) r') :
    r.Shows ((load.whole v).template.slotsAt r.order r.pos) ∧
      r' = r.skip ((load.whole v).template.size r.order r.pos) := by
  cases load with
  | value t ht =>
    obtain ⟨v', r₁, hvalue, ⟨⟩⟩ := bind_apply_eq_ok_iff.1 h
    obtain ⟨-, hfound⟩ := (Read.value_decodes t).found hr hvalue
    exact ⟨hfound.shows, hfound.eq_skip⟩
  | variant =>
    obtain ⟨v', r₁, hvariant, ⟨⟩⟩ := bind_apply_eq_ok_iff.1 h
    exact found_of_variant hr hvariant
  | variantOf expected =>
    obtain ⟨v', r₁, hvariant, ⟨⟩⟩ := bind_apply_eq_ok_iff.1 h
    exact found_of_variant hr (Read.variant_of_variantOf hvariant)
  | align k | array k =>
    obtain ⟨_, r₁, -, ⟨⟩⟩ := bind_apply_eq_ok_iff.1 h

/-- Only an array gives a reader. -/
theorem exists_of_read_elements {load : Load} {r elements r' : Reader}
    (h : load.read r = .ok (.elements elements) r') : ∃ k, load = .array k := by
  cases load with
  | array k => exact ⟨k, rfl⟩
  | _ =>
    obtain ⟨_, _, -, ⟨⟩⟩ := bind_apply_eq_ok_iff.1 h

/-- What a load does with a reader. -/
structure Respects (load : Load) (c : Cursor) (outcome : Except Error Loaded) (c' : Cursor) :
    Prop where
  ended : Ended 0 load.read c outcome c'
  /-- A reader of elements has as many bytes as the length says, and they have been passed over. -/
  elements : ∀ r, outcome = .ok (.elements r) → ∃ k, load = .array k ∧
    r = { c.reader with
      pos := firstOf c.reader (2 ^ k)
      stop := firstOf c.reader (2 ^ k) + c.reader.numberAt 4 (c.reader.aligned 4) } ∧
    c.reader.pos + 4 ≤ r.pos ∧ c'.reader.pos = r.stop
  /-- The bytes that were taken are those of the value. -/
  value : ∀ v, outcome = .ok (.value v) →
    c.reader.Shows ((load.whole v).template.slotsAt c.reader.order c.reader.pos) ∧
      c'.reader = c.reader.skip ((load.whole v).template.size c.reader.order c.reader.pos)
  /-- A length that is larger than what remains is an error. -/
  overlong : ∀ width, load.lengthWidth? = some width → c.reader.Overlong width →
    ∀ loaded, outcome ≠ .ok loaded

/-- One load. -/
theorem exists_run {c : Cursor} (hc : c.Sound maxVariantDepth) (load : Load) :
    ∃ outcome c', Gives (load.run · c) (outcome, c') ∧ load.Respects c outcome c' := by
  obtain ⟨outcome, c', hrun, hended⟩ := (ends_run hc load).exists_ended hc (moves_read load)
  refine ⟨outcome, c', hrun, hended, ?_, ?_, ?_⟩
  · rintro r rfl
    obtain ⟨k, rfl⟩ := exists_of_read_elements hended.read_eq
    obtain ⟨elements, r₁, harray, hrest⟩ := bind_apply_eq_ok_iff.1 hended.read_eq
    cases hrest
    have hpos := (Read.window_of_array hc.inside harray).2.1
    obtain ⟨-, -, hr, hpassed⟩ := (Read.array_eq_ok_iff_length hc.inside).1 harray
    exact ⟨k, rfl, hr, hpos, by rw [hr, hpassed]⟩
  · rintro v rfl
    exact found_of_read hc.inside hended.read_eq
  · rintro width hwidth hover loaded rfl
    exact heeds_read hwidth _ _ _ hc.inside hover hended.read_eq

end Load

/-! ### Many readers -/

/-- The reader of a whole body. -/
def start (order : ByteOrder) (data : ByteArray) : Cursor :=
  ⟨.new order data, 0, 0⟩

/-- The readers that a load adds to those there are. -/
def added (c : Cursor) : Except Error Loaded → List Cursor
  | .ok (.elements r) => [{ c with reader := r }]
  | _ => []

/-- Does a load with one of many readers, if there is one with that number. -/
def step (cs : List Cursor) (i : Nat) (load : Load) (fuel : Nat) : Option (List Cursor) :=
  match cs[i]? with
  | none => some cs
  | some c => (load.run fuel c).map fun (outcome, c') => cs.set i c' ++ c'.added outcome

/-- Does some loads one after the other. There is nothing if the fuel does not last. -/
def steps (cs : List Cursor) (loads : List (Nat × Load)) (fuel : Nat) : Option (List Cursor) :=
  match loads with
  | [] => some cs
  | (i, load) :: rest => do steps (← step cs i load fuel) rest fuel

/-- Readers of one body, none of which is inside a variant. -/
def AllSound (order : ByteOrder) (data : ByteArray) (cs : List Cursor) : Prop :=
  ∀ c ∈ cs, c.Sound maxVariantDepth ∧ c.reader.order = order ∧ c.reader.data = data

/-- Later each reader is still there, and still in its window. -/
def Keeps (cs cs' : List Cursor) : Prop :=
  ∀ (i : Nat) (c : Cursor), cs[i]? = some c →
    ∃ c', cs'[i]? = some c' ∧ c.reader.Later c'.reader ∧ c'.depth = c.depth

section

variable {order : ByteOrder} {data : ByteArray} {cs cs' cs'' : List Cursor}

theorem allSound_start (order : ByteOrder) (data : ByteArray) :
    AllSound order data [start order data] :=
  List.forall_mem_singleton.2
    ⟨⟨Reader.inside_new order data, Nat.zero_add _, Nat.zero_le _⟩, rfl, rfl⟩

theorem AllSound.keeps_self (h : AllSound order data cs) : Keeps cs cs := fun _ c hc =>
  ⟨c, hc, (h c (List.mem_of_getElem? hc)).1.inside.later_self, rfl⟩

theorem Keeps.trans (h : Keeps cs cs') (h' : Keeps cs' cs'') : Keeps cs cs'' := by
  intro i c hc
  obtain ⟨c', hc', hlater, hdepth⟩ := h i c hc
  obtain ⟨c'', hc'', hlater', hdepth'⟩ := h' i c' hc'
  exact ⟨c'', hc'', hlater.trans hlater', hdepth'.trans hdepth⟩

/-- The reader of the elements of an array is like the others. -/
theorem Load.Respects.sound_added {load : Load} {outcome : Except Error Loaded} {n : Nat}
    {c c' s : Cursor} (h : load.Respects c outcome c') (hc' : c'.Sound n)
    (hs : s ∈ c'.added outcome) :
    s.Sound n ∧ s.reader.order = c.reader.order ∧ s.reader.data = c.reader.data := by
  rcases outcome with e | - | v | r
  · cases hs
  · cases hs
  · cases hs
  · obtain rfl := List.mem_singleton.1 hs
    obtain ⟨k, -, hr, -, hpos⟩ := h.elements r rfl
    have horder : r.order = c.reader.order := by rw [hr]
    have hdata : r.data = c.reader.data := by rw [hr]
    have hinside : r.Inside := by
      refine ⟨by rw [hr]; exact Nat.le_add_right _ _, ?_⟩
      rw [← hpos, hdata, ← h.ended.later.data_eq]
      exact Nat.le_trans hc'.inside.pos_le hc'.inside.stop_le
    exact ⟨⟨hinside, hc'.depth_add, hc'.deepest_le⟩, horder, hdata⟩

/-- A load with one reader leaves the others as they are. -/
theorem getElem?_set_append {i j : Nat} {c c' : Cursor} (more : List Cursor)
    (hj : cs[j]? = some c) :
    (cs.set i c' ++ more)[j]? = some (if i = j then c' else c) := by
  have hlt : j < (cs.set i c').length := by
    rw [List.length_set]
    exact (List.getElem?_eq_some_iff.1 hj).1
  rw [List.getElem?_append_left hlt, List.getElem?_set]
  rw [List.length_set] at hlt
  split
  · next h => rw [if_pos (h ▸ hlt)]
  · exact hj

theorem step_of_run {i : Nat} {load : Load} {c c' : Cursor} {outcome : Except Error Loaded}
    (hi : cs[i]? = some c) (hrun : Gives (load.run · c) (outcome, c')) :
    Gives (step cs i load) (cs.set i c' ++ c'.added outcome) := by
  have hstep := hrun.map fun (outcome, c') => cs.set i c' ++ c'.added outcome
  unfold step
  rw [hi]
  exact hstep

/-- One load keeps all readers, and the one that it adds is like them. -/
theorem exists_step (h : AllSound order data cs) (i : Nat) (load : Load) :
    ∃ cs', Gives (step cs i load) cs' ∧ AllSound order data cs' ∧ Keeps cs cs' := by
  cases hi : cs[i]? with
  | none =>
    refine ⟨cs, ?_, h, h.keeps_self⟩
    unfold step
    rw [hi]
    exact .of_some cs
  | some c =>
    obtain ⟨hc, rfl, rfl⟩ := h c (List.mem_of_getElem? hi)
    obtain ⟨outcome, c', hrun, hrespects⟩ := load.exists_run hc
    have hended := hrespects.ended
    have hc' := hended.sound hc
    refine ⟨_, step_of_run hi hrun, ?_, ?_⟩
    · refine List.forall_mem_append.2 ⟨fun s hs => ?_, fun s hs => hrespects.sound_added hc' hs⟩
      rcases List.mem_or_eq_of_mem_set hs with hs | rfl
      · exact h s hs
      · exact ⟨hc', hended.later.order_eq, hended.later.data_eq⟩
    · intro j c₀ hj
      refine ⟨_, getElem?_set_append _ hj, ?_⟩
      split
      · next hij =>
        obtain rfl : c = c₀ := Option.some.inj (hi.symm.trans (hij ▸ hj))
        exact ⟨hended.later, hended.depth_eq⟩
      · exact ⟨(h c₀ (List.mem_of_getElem? hj)).1.inside.later_self, rfl⟩

theorem exists_steps (loads : List (Nat × Load)) (h : AllSound order data cs) :
    ∃ cs', Gives (steps cs loads) cs' ∧ AllSound order data cs' ∧ Keeps cs cs' := by
  induction loads generalizing cs with
  | nil => exact ⟨cs, .of_some cs, h, h.keeps_self⟩
  | cons l rest ih =>
    obtain ⟨i, load⟩ := l
    obtain ⟨cs₁, hstep, hsound, hkeeps⟩ := exists_step h i load
    obtain ⟨cs', hrest, hsound', hkeeps'⟩ := ih hsound
    exact ⟨cs', hstep.bind hrest, hsound', hkeeps.trans hkeeps'⟩

theorem steps_append (first second : List (Nat × Load)) (fuel : Nat) :
    steps cs (first ++ second) fuel = (do steps (← steps cs first fuel) second fuel) := by
  induction first generalizing cs with
  | nil => rfl
  | cons l rest ih =>
    obtain ⟨i, load⟩ := l
    rw [List.cons_append, steps, steps, bind_assoc]
    exact bind_congr fun cs₁ => ih

end

/-- What holds of the readers of a body after some loads. -/
structure Safe (order : ByteOrder) (data : ByteArray) (cs : List Cursor) : Prop where
  inside : ∀ c ∈ cs, c.reader.Inside ∧ c.reader.order = order ∧ c.reader.data = data ∧ c.depth = 0
  /-- Whatever is loaded next with one of them, the others stay as they are. -/
  step : ∀ (i : Nat) (c : Cursor) (load : Load), cs[i]? = some c → ∃ outcome c',
    Gives (load.run · c) (outcome, c') ∧ load.Respects c outcome c' ∧
      Gives (step cs i load) (cs.set i c' ++ c'.added outcome)

theorem AllSound.safe {order : ByteOrder} {data : ByteArray} {cs : List Cursor}
    (h : AllSound order data cs) : Safe order data cs where
  inside c hc := by
    obtain ⟨hsound, horder, hdata⟩ := h c hc
    have hdepth := hsound.depth_add
    exact ⟨hsound.inside, horder, hdata, by omega⟩
  step i c load hi := by
    obtain ⟨outcome, c', hrun, hrespects⟩ :=
      load.exists_run (h c (List.mem_of_getElem? hi)).1
    exact ⟨outcome, c', hrun, hrespects, step_of_run hi hrun⟩

/-- Whatever has been loaded from a body and whatever is loaded then, all readers are in their
windows, which are where they were. -/
theorem readers_stay_inside (order : ByteOrder) (data : ByteArray) (before : List (Nat × Load)) :
    ∃ cs, Gives (steps [start order data] before) cs ∧ Safe order data cs ∧
      ∀ behind : List (Nat × Load), ∃ cs',
        Gives (steps [start order data] (before ++ behind)) cs' ∧ Safe order data cs' ∧
          Keeps cs cs' := by
  obtain ⟨cs, hbefore, hsound, -⟩ := exists_steps before (allSound_start order data)
  refine ⟨cs, hbefore, hsound.safe, fun behind => ?_⟩
  obtain ⟨cs', hbehind, hsound', hkeeps⟩ := exists_steps behind hsound
  refine ⟨cs', ?_, hsound'.safe, hkeeps⟩
  simp only [funext (steps_append before behind)]
  exact hbefore.bind hbehind

end Cursor

end DBus
