import DBus.Proofs.Wire.Bounds

/-!
# Loading ends

`Read.value` counts down: the loops over arrays by the bytes that are left, and the variants by how
many more may be entered. Here values are loaded without that. A loop goes on while there are bytes,
and a variant holds whatever type the bytes name; a counter is raised when a variant is entered and
lowered when it is left. All that is limited is how deep the calls may nest, and there is no outcome
if they nest deeper. But with enough fuel for them there always is one, and it is that of
`Read.value`, unless a type has empty structs, of which there may be any number in no bytes at all.
-/

namespace DBus

/-- A reader that counts the variants around what it reads. -/
structure Cursor where
  reader : Reader
  /-- How many variants are around what is read now. -/
  depth : Nat
  /-- How many there have been at most. Nothing depends on this. -/
  deepest : Nat

/-- Loading with a cursor; nothing if the fuel does not last. -/
abbrev Loading (α : Type) := ExceptT Error (StateT Cursor Option) α

namespace Cursor

variable {α β : Type}

/-- What comes of an action of the reader. -/
def perform (c : Cursor) (x : Read α) : Except Error α × Cursor :=
  match x c.reader with
  | .ok a r => (.ok a, { c with reader := r })
  | .error e r => (.error e, { c with reader := r })

/-! ### Loading without an end in sight -/

/-- The fuel has not lasted. -/
def exhausted : Loading α :=
  fun _ => none

/-- Does an action of the reader. -/
def reading (x : Read α) : Loading α :=
  fun c => some (c.perform x)

/-- Loads from the contents of an array. The reader of the array is behind them already. -/
def within (elements : Reader) (load : Loading α) : Loading α :=
  fun c => (load { c with reader := elements }).map fun (outcome, inner) =>
    (outcome, { c with deepest := inner.deepest })

/-- A cursor inside one more variant. -/
def enter (c : Cursor) : Cursor :=
  { c with depth := c.depth + 1, deepest := max c.deepest (c.depth + 1) }

/-- A cursor outside the variant again. -/
def leave (c : Cursor) : Cursor :=
  { c with depth := c.depth - 1 }

/-- Loads what is in a variant. The counter is lowered again whatever comes of it. -/
def deeper (load : Loading α) : Loading α :=
  fun c =>
    if c.depth = maxVariantDepth then some (.error .variantTooDeep, c)
    else (load c.enter).map fun (outcome, inner) => (outcome, inner.leave)

mutual

/-- Loads a value of a type. -/
def value : (fuel : Nat) → Ty → Loading Value
  | 0, _ => exhausted
  | _ + 1, .basic b => reading (Read.basic b)
  | fuel + 1, .variant => do return .variant (← variant fuel)
  | fuel + 1, .array (.entry k v) => do
    let elements ← reading (Read.array 8)
    return .dict k v (← within elements (entries fuel k v []))
  | fuel + 1, .array element => do
    let elements ← reading (Read.array element.alignment)
    return .array element (← within elements (values fuel element []))
  | fuel + 1, .struct ts => do
    reading (Read.align 8)
    return .struct (← fields fuel ts)
  | _ + 1, .entry k v => throw (.invalidVariant (Ty.entry k v).signature)

/-- Loads a value of each type in turn. -/
def fields : (fuel : Nat) → List Ty → Loading (List Value)
  | 0, _ => exhausted
  | _ + 1, [] => return []
  | fuel + 1, t :: ts => do
    let v ← value fuel t
    return v :: (← fields fuel ts)

/-- Loads values of a type while there are bytes, and adds them to `found`, newest first. -/
def values : (fuel : Nat) → Ty → (found : List Value) → Loading (List Value)
  | 0, _, _ => exhausted
  | fuel + 1, t, found => do
    if (← get).reader.isEmpty then return found.reverse
    values fuel t ((← value fuel t) :: found)

/-- Loads dict entries while there are bytes, and adds them to `found`, newest first. -/
def entries : (fuel : Nat) → Ty → Ty → (found : List (Value × Value)) →
    Loading (List (Value × Value))
  | 0, _, _, _ => exhausted
  | fuel + 1, k, v, found => do
    if (← get).reader.isEmpty then return found.reverse
    entries fuel k v ((← entry fuel k v) :: found)

/-- Loads a dict entry. -/
def entry : (fuel : Nat) → Ty → Ty → Loading (Value × Value)
  | 0, _, _ => exhausted
  | fuel + 1, k, v => do
    reading (Read.align 8)
    let a ← value fuel k
    return (a, ← value fuel v)

/-- Loads a variant. -/
def variant : (fuel : Nat) → Loading Value
  | 0 => exhausted
  | fuel + 1 => do nested fuel (← reading Read.variantType)

/-- Loads the value of a variant. -/
def nested : (fuel : Nat) → Ty → Loading Value
  | 0, _ => exhausted
  | fuel + 1, t => deeper (value fuel t)

end

/-! ### Enough fuel -/

/-- With enough fuel the result is this one, and it stays the same with more. -/
def Gives (run : Nat → Option α) (result : α) : Prop :=
  ∃ enough, ∀ fuel, enough ≤ fuel → run fuel = some result

section

variable {run run' : Nat → Option α} {more : Nat → α → Option β} {a : α} {b : β}

theorem Gives.of_some (a : α) : Gives (fun _ => some a) a :=
  ⟨0, fun _ _ => rfl⟩

/-- One call more takes one more of fuel. -/
theorem Gives.succ (h : Gives run a) (hstep : ∀ fuel, run' (fuel + 1) = run fuel) :
    Gives run' a := by
  obtain ⟨enough, h⟩ := h
  refine ⟨enough + 1, fun fuel hle => ?_⟩
  obtain ⟨fuel, rfl⟩ : ∃ n, fuel = n + 1 := ⟨fuel - 1, by omega⟩
  rw [hstep]
  exact h fuel (by omega)

theorem Gives.map (h : Gives run a) (f : α → β) : Gives (fun fuel => (run fuel).map f) (f a) := by
  obtain ⟨enough, h⟩ := h
  exact ⟨enough, fun fuel hle => congrArg (Option.map f) (h fuel hle)⟩

/-- Two things have enough fuel if each of them has. -/
theorem Gives.bind (h : Gives run a) (hmore : Gives (more · a) b) :
    Gives (fun fuel => run fuel >>= more fuel) b := by
  obtain ⟨enough, h⟩ := h
  obtain ⟨enough', hmore⟩ := hmore
  refine ⟨max enough enough', fun fuel hle => ?_⟩
  obtain ⟨hle, hle'⟩ := Nat.max_le.1 hle
  show run fuel >>= more fuel = some b
  rw [h fuel hle]
  exact hmore fuel hle'

end

section

variable {load : Nat → Loading α} {k : Nat → α → Loading β} {c c' : Cursor}

theorem Gives.bind_of_ok {a : α} {result : Except Error β × Cursor}
    (h : Gives (load · c) (.ok a, c')) (hk : Gives (k · a c') result) :
    Gives (fun fuel => (load fuel >>= k fuel) c) result :=
  h.bind hk

theorem Gives.bind_of_error {e : Error} (h : Gives (load · c) (.error e, c')) :
    Gives (fun fuel => (load fuel >>= k fuel) c) (.error e, c') :=
  h.bind ⟨0, fun _ _ => rfl⟩

end

/-! ### Cursors do what readers do -/

/-- A cursor that may still enter `n` variants. -/
structure Sound (n : Nat) (c : Cursor) : Prop where
  inside : c.reader.Inside
  depth_add : c.depth + n = maxVariantDepth
  deepest_le : c.deepest ≤ maxVariantDepth

/-- With enough fuel a load ends as an action of the reader does. The counter is where it was, and
has never been too high. -/
def Ends (x : Read α) (c : Cursor) (load : Nat → Loading α) : Prop :=
  ∃ m, m ≤ maxVariantDepth ∧
    Gives (load · c) ((c.perform x).1, { (c.perform x).2 with deepest := m })

section

variable {n i : Nat} {x : Read α} {f : α → Read β} {c : Cursor} {load load' : Nat → Loading α}

theorem perform_of_ok {a : α} {r : Reader} (h : x c.reader = .ok a r) :
    c.perform x = (.ok a, { c with reader := r }) := by
  rw [perform, h]

theorem perform_of_error {e : Error} {r : Reader} (h : x c.reader = .error e r) :
    c.perform x = (.error e, { c with reader := r }) := by
  rw [perform, h]

theorem Sound.ends_reading (hc : c.Sound n) (x : Read α) : Ends x c fun _ => reading x := by
  refine ⟨c.deepest, hc.deepest_le, 0, fun _ _ => ?_⟩
  show some (c.perform x) = _
  rw [perform]
  cases x c.reader <;> rfl

theorem Ends.succ (h : Ends x c load) (hstep : ∀ fuel, load' (fuel + 1) c = load fuel c) :
    Ends x c load' := by
  obtain ⟨m, hm, hload⟩ := h
  exact ⟨m, hm, hload.succ hstep⟩

/-- One thing is done after the other, unless the first one fails. -/
theorem Ends.bind {k : Nat → α → Loading β} (h : Ends x c load) (hc : c.Sound n) (hx : x.Moves i)
    (hk : ∀ a c', x c.reader = .ok a c'.reader → c'.Sound n → Ends (f a) c' (k · a)) :
    Ends (x >>= f) c fun fuel => load fuel >>= k fuel := by
  obtain ⟨m, hm, hload⟩ := h
  cases hrun : x c.reader with
  | error e r =>
    rw [perform_of_error hrun] at hload
    refine ⟨m, hm, ?_⟩
    rw [perform_of_error (bind_apply_of_error hrun)]
    exact hload.bind_of_error
  | ok a r =>
    rw [perform_of_ok hrun] at hload
    have hlater := (hx.of_ok hc.inside hrun).1
    obtain ⟨m', hm', hmore⟩ :=
      hk a { c with reader := r, deepest := m } hrun ⟨hlater.inside hc.inside, hc.depth_add, hm⟩
    refine ⟨m', hm', ?_⟩
    convert hload.bind_of_ok hmore using 1
    rw [perform, perform, bind_apply_of_ok hrun]
    cases f a r <;> rfl

theorem Ends.map (g : α → β) (h : Ends x c load) :
    Ends (x >>= fun a => pure (g a)) c fun fuel => load fuel >>= fun a => pure (g a) := by
  obtain ⟨m, hm, hload⟩ := h
  refine ⟨m, hm, ?_⟩
  cases hrun : x c.reader with
  | error e r =>
    rw [perform_of_error hrun] at hload
    rw [perform_of_error (bind_apply_of_error hrun)]
    exact hload.bind_of_error
  | ok a r =>
    rw [perform_of_ok hrun] at hload
    have hboth : (x >>= fun a => pure (g a)) c.reader = .ok (g a) r :=
      (bind_apply_of_ok hrun).trans rfl
    rw [perform_of_ok hboth]
    exact hload.bind_of_ok (.of_some _)

end

/-! ### Loops -/

/-- A loop that does a step as long as there are bytes, and adds what that finds to `found`. -/
def Loops (step : Nat → Loading α) (loop : Nat → List α → Loading (List α)) : Prop :=
  ∀ fuel found, loop (fuel + 1) found = do
    if (← get).reader.isEmpty then return found.reverse
    loop fuel ((← step fuel) :: found)

theorem loops_values (t : Ty) : Loops (value · t) (values · t) := by
  intro fuel found
  show values (fuel + 1) t found = _
  rw [values]

theorem loops_entries (k v : Ty) : Loops (entry · k v) (entries · k v) := by
  intro fuel found
  show entries (fuel + 1) k v found = _
  rw [entries]

theorem get_bind_apply (f : Cursor → Loading α) (c : Cursor) :
    ((get : Loading Cursor) >>= f) c = f c c := rfl

section

variable {n : Nat} {x : Read α} {step : Nat → Loading α} {loop : Nat → List α → Loading (List α)}
  {c : Cursor}

theorem Loops.gives_of_empty (hloop : Loops step loop) (found : List α)
    (h : c.reader.isEmpty = true) : Gives (loop · found c) (.ok found.reverse, c) := by
  refine (Gives.of_some _).succ fun fuel => ?_
  rw [hloop, get_bind_apply, if_pos h]
  rfl

theorem Loops.gives_of_not_empty (hloop : Loops step loop) {found : List α}
    {result : Except Error (List α) × Cursor} (h : ¬c.reader.isEmpty = true)
    (hrest : Gives (fun fuel => (step fuel >>= fun a => loop fuel (a :: found)) c) result) :
    Gives (loop · found c) result := by
  refine hrest.succ fun fuel => ?_
  rw [hloop, get_bind_apply, if_neg h]

/-- A loop over the contents of an array comes to their end, because each step takes a byte of them.
It needs no more steps than there are bytes. -/
theorem Loops.exists_gives (hloop : Loops step loop) (hx : x.Moves 1)
    (hstep : ∀ c : Cursor, c.Sound n → Ends x c step) (bytes : Nat) (found : List α)
    (hc : c.Sound n) (hbytes : c.reader.remaining ≤ bytes) :
    ∃ c', Gives (loop · found c) (Reader.untilEmpty x bytes found c.reader, c') ∧
      c'.deepest ≤ maxVariantDepth := by
  -- The steps that are allowed are as many as the bytes left, and each step takes one of both.
  induction bytes generalizing found c with
  | zero =>
    have hempty : c.reader.isEmpty = true := by
      have hle := hc.inside.pos_le
      rw [Reader.remaining] at hbytes
      exact Read.isEmpty_eq_true_iff.2 (by omega)
    rw [Reader.untilEmpty, if_pos hempty]
    exact ⟨c, hloop.gives_of_empty found hempty, hc.deepest_le⟩
  | succ bytes ih =>
    rw [Reader.untilEmpty]
    split
    · next hempty => exact ⟨c, hloop.gives_of_empty found hempty, hc.deepest_le⟩
    · next hempty =>
      obtain ⟨m, hm, hload⟩ := hstep c hc
      cases hrun : x c.reader with
      | error e r =>
        rw [perform_of_error hrun] at hload
        exact ⟨_, hloop.gives_of_not_empty hempty hload.bind_of_error, hm⟩
      | ok a r =>
        rw [perform_of_ok hrun] at hload
        obtain ⟨hlater, hpos⟩ := hx.of_ok hc.inside hrun
        have hless := hlater.remaining_add_le hpos
        obtain ⟨c', hrest, hdeepest⟩ := ih (a :: found) (c := { c with reader := r, deepest := m })
          ⟨hlater.inside hc.inside, hc.depth_add, hm⟩ (show r.remaining ≤ bytes by omega)
        exact ⟨c', hloop.gives_of_not_empty hempty (hload.bind_of_ok hrest), hdeepest⟩

/-- What is done with an array, whose contents a loop reads. -/
theorem Loops.ends_array (hloop : Loops step loop) (hx : x.Moves 1)
    (hstep : ∀ c : Cursor, c.Sound n → Ends x c step) (elementAlign : Nat) (hc : c.Sound n) :
    Ends (Read.arrayOf elementAlign x) c fun fuel =>
      reading (Read.array elementAlign) >>= fun elements => within elements (loop fuel []) := by
  rw [Read.arrayOf]
  refine (hc.ends_reading _).bind hc (Read.moves_array elementAlign) ?_
  intro elements c' harray hc'
  have hinside := (Read.window_of_array hc.inside harray).1
  obtain ⟨inner, hinner, hdeepest⟩ := hloop.exists_gives hx hstep elements.remaining []
    (c := { c' with reader := elements }) ⟨hinside, hc'.depth_add, hc'.deepest_le⟩ (Nat.le_refl _)
  refine ⟨inner.deepest, hdeepest, ?_⟩
  have hback : Gives _ (Reader.all x elements, { c' with deepest := inner.deepest }) :=
    hinner.map fun (outcome, inner) => (outcome, { c' with deepest := inner.deepest })
  cases hall : Reader.all x elements with
  | ok found | error e =>
    rw [hall] at hback
    exact hback

end

/-! ### Values -/

section

variable {n : Nat} {c : Cursor}

/-- The values in an array. -/
theorem ends_values {t : Ty} {x : Read Value} (h : ∀ k v, t ≠ .entry k v) (hx : x.Moves 1)
    (hstep : ∀ c : Cursor, c.Sound n → Ends x c (value · t)) (hc : c.Sound n) :
    Ends (Read.arrayOf t.alignment x >>= fun found => pure (.array t found)) c
      (value · (.array t)) := by
  have hloop := (loops_values t).ends_array hx hstep t.alignment hc
  refine (hloop.map (Value.array t)).succ fun fuel => ?_
  rw [value, bind_assoc]
  exact h

theorem moves_element {t : Ty} (h : t.isFilled = true) :
    (Read.typed (Read.variantWithin n) t).Moves 1 :=
  Read.moves_typed ((Read.moves_variantWithin n).mono (by decide)) h

theorem ends_entry {nested : Read Value} {k v : Ty} (hk : (Read.typed nested k).Moves 1)
    (hkey : ∀ c : Cursor, c.Sound n → Ends (Read.typed nested k) c (value · k))
    (hvalue : ∀ c : Cursor, c.Sound n → Ends (Read.typed nested v) c (value · v))
    (hc : c.Sound n) : Ends (Read.entry nested k v) c (entry · k v) := by
  have hentry := (hc.ends_reading (Read.align 8)).bind hc (Read.moves_align 8) fun _ c _ hc =>
    (hkey c hc).bind hc hk fun a c _ hc => (hvalue c hc).map (a, ·)
  exact hentry.succ fun fuel => by rw [entry]

theorem moves_entry {nested : Read Value} (hnested : nested.Moves 1) {k v : Ty}
    (h : (Ty.entry k v).isFilled = true) : (Read.entry nested k v).Moves 1 := by
  obtain ⟨hk, hv⟩ := Ty.isFilled_entry.1 h
  have hentry := (Read.moves_align 8).bind fun _ => (Read.moves_typed hnested hk).bind fun a =>
    (Read.moves_typed hnested hv).bind fun b => Read.Moves.pure (a, b)
  exact hentry.mono (by decide)

mutual

/-- Loading a value ends, if that of a variant does. -/
theorem ends_value (hvariant : ∀ c : Cursor, c.Sound n → Ends (Read.variantWithin n) c variant) :
    ∀ {t : Ty} {c : Cursor}, t.isFilled = true → c.Sound n →
      Ends (Read.typed (Read.variantWithin n) t) c (value · t)
  | .basic b, c, _, hc => (hc.ends_reading (Read.basic b)).succ fun fuel => by rw [value]
  | .variant, c, _, hc => ((hvariant c hc).map Value.variant).succ fun fuel => by rw [value]
  | .array (.entry k v), c, h, hc => by
    obtain ⟨hk, hv⟩ := Ty.isFilled_entry.1 h
    have hmoves : (Read.variantWithin n).Moves 1 := (Read.moves_variantWithin n).mono (by decide)
    have hloop := (loops_entries k v).ends_array (moves_entry hmoves h)
      (fun c hc => ends_entry (Read.moves_typed hmoves hk) (fun c hc => ends_value hvariant hk hc)
        (fun c hc => ends_value hvariant hv hc) hc) 8 hc
    refine (hloop.map (Value.dict k v)).succ fun fuel => ?_
    rw [value, bind_assoc]
  | .array (.basic b), _, h, hc =>
    ends_values nofun (moves_element h) (fun _ hc => ends_value hvariant (t := .basic b) h hc) hc
  | .array .variant, _, h, hc =>
    ends_values nofun (moves_element h) (fun _ hc => ends_value hvariant (t := .variant) h hc) hc
  | .array (.array t), _, h, hc =>
    ends_values nofun (moves_element h) (fun _ hc => ends_value hvariant (t := .array t) h hc) hc
  | .array (.struct ts), _, h, hc =>
    ends_values nofun (moves_element h) (fun _ hc => ends_value hvariant (t := .struct ts) h hc) hc
  | .struct ts, c, h, hc => by
    have hfields := (hc.ends_reading (Read.align 8)).bind hc (Read.moves_align 8) fun _ c _ hc =>
      (ends_fields hvariant (Ty.isFilled_struct.1 h).2 hc).map Value.struct
    exact hfields.succ fun fuel => by rw [value]
  | .entry k v, c, _, hc =>
    (hc.ends_reading (throw (.invalidVariant (Ty.entry k v).signature))).succ fun fuel => by
      rw [value]
      rfl

theorem ends_fields (hvariant : ∀ c : Cursor, c.Sound n → Ends (Read.variantWithin n) c variant) :
    ∀ {ts : List Ty} {c : Cursor}, Ty.areFilled ts = true → c.Sound n →
      Ends (Read.typedAll (Read.variantWithin n) ts) c (fields · ts)
  | [], c, _, hc => (hc.ends_reading (pure [])).succ fun fuel => by
    rw [fields]
    rfl
  | t :: ts, c, h, hc => by
    obtain ⟨ht, hts⟩ := Ty.areFilled_cons.1 h
    have hfields := (ends_value hvariant ht hc).bind hc (moves_element ht) fun v c _ hc =>
      (ends_fields hvariant hts hc).map (v :: ·)
    exact hfields.succ fun fuel => by rw [fields]

end

theorem Sound.enter (hc : c.Sound (n + 1)) : c.enter.Sound n := by
  have hdepth := hc.depth_add
  exact ⟨hc.inside, by show c.depth + 1 + n = _; omega,
    Nat.max_le.2 ⟨hc.deepest_le, by omega⟩⟩

mutual

/-- Loading a variant ends, however deep it stands. -/
theorem ends_variant (n : Nat) {c : Cursor} (hc : c.Sound n) :
    Ends (Read.variantWithin n) c variant := by
  rw [Read.variantWithin_eq]
  have hboth := (hc.ends_reading Read.variantType).bind hc Read.moves_variantType
    fun t c htype hc => ends_nested n (Read.isFilled_of_variantType htype) hc
  exact hboth.succ fun fuel => by rw [variant]
  termination_by 2 * n + 1

/-- The value in it ends because fewer variants may be entered there. -/
theorem ends_nested (n : Nat) {t : Ty} {c : Cursor} (h : t.isFilled = true) (hc : c.Sound n) :
    Ends (Read.inVariant n t) c (nested · t) := by
  have hdepth := hc.depth_add
  cases n with
  | zero =>
    have hdeep : c.depth = maxVariantDepth := hdepth
    refine (hc.ends_reading (throw .variantTooDeep)).succ fun fuel => ?_
    rw [nested, deeper, if_pos hdeep]
    rfl
  | succ n =>
    have hroom : c.depth ≠ maxVariantDepth := by omega
    -- The type is none that has been looked at, and may be as large as it likes. What becomes less
    -- is the number of variants that may be entered.
    obtain ⟨m, hm, hvalue⟩ := ends_value (fun c hc => ends_variant n hc) h hc.enter
    refine ⟨m, hm, ?_⟩
    have hleft := hvalue.map fun (outcome, inner) => (outcome, inner.leave)
    have hload : Gives (nested · t c) _ := hleft.succ fun fuel => by
      rw [nested, deeper, if_neg hroom]
    rw [perform, show c.enter.reader = c.reader from rfl] at hload
    rw [perform, Read.inVariant]
    cases hrun : Read.typed (Read.variantWithin n) t c.reader with
    | ok v r | error e r =>
      rw [hrun] at hload
      exact hload
  termination_by 2 * n

end

end

/-! ### Every load ends -/

/-- A load that has ended as an action of the reader does. -/
structure Ended (i : Nat) (x : Read α) (c : Cursor) (outcome : Except Error α) (c' : Cursor) :
    Prop where
  outcome_eq : (c.perform x).1 = outcome
  reader_eq : (c.perform x).2.reader = c'.reader
  depth_eq : c'.depth = c.depth
  /-- No more variants have been entered than may be. -/
  deepest_le : c'.deepest ≤ maxVariantDepth
  later : c.reader.Later c'.reader
  /-- If it succeeds it has taken at least `i` bytes. -/
  less : ∀ a, outcome = .ok a →
    c.reader.pos + i ≤ c'.reader.pos ∧ c'.reader.remaining + i ≤ c.reader.remaining

section

variable {i n : Nat} {x : Read α} {c c' : Cursor} {outcome : Except Error α}

theorem Ends.exists_ended {load : Nat → Loading α} (h : Ends x c load) (hc : c.Sound n)
    (hx : x.Moves i) : ∃ outcome c', Gives (load · c) (outcome, c') ∧ Ended i x c outcome c' := by
  obtain ⟨m, hm, hload⟩ := h
  refine ⟨_, _, hload, ?_⟩
  cases hrun : x c.reader with
  | ok a r =>
    obtain ⟨hlater, hpos⟩ := hx.of_ok hc.inside hrun
    rw [perform_of_ok hrun]
    exact ⟨by rw [perform_of_ok hrun], by rw [perform_of_ok hrun], rfl, hm, hlater,
      fun _ _ => ⟨hpos, hlater.remaining_add_le hpos⟩⟩
  | error e r =>
    rw [perform_of_error hrun]
    exact ⟨by rw [perform_of_error hrun], by rw [perform_of_error hrun], rfl, hm,
      hx.of_error hc.inside hrun, nofun⟩

theorem Ended.sound (h : Ended i x c outcome c') (hc : c.Sound n) : c'.Sound n :=
  ⟨h.later.inside hc.inside, h.depth_eq ▸ hc.depth_add, h.deepest_le⟩

theorem Ended.read_eq {a : α} (h : Ended i x c (.ok a) c') : x c.reader = .ok a c'.reader := by
  have houtcome := h.outcome_eq
  have hreader := h.reader_eq
  cases hrun : x c.reader with
  | ok b r =>
    rw [perform_of_ok hrun] at houtcome hreader
    cases houtcome
    rw [← hreader]
  | error e r =>
    rw [perform_of_error hrun] at houtcome
    cases houtcome

end

/-- Whatever is loaded with a cursor that may still enter `n` variants, it ends: values, variants,
and the loops over arrays, each step of which takes something. -/
structure Terminates (n : Nat) (c : Cursor) : Prop where
  value : ∀ t : Ty, t.isFilled = true → ∃ outcome c', Gives (value · t c) (outcome, c') ∧
    Ended 1 (Read.typed (Read.variantWithin n) t) c outcome c'
  variant : ∃ outcome c', Gives (variant · c) (outcome, c') ∧
    Ended 1 (Read.variantWithin n) c outcome c'
  entry : ∀ k v : Ty, (Ty.entry k v).isFilled = true → ∃ outcome c',
    Gives (entry · k v c) (outcome, c') ∧
      Ended 1 (Read.entry (Read.variantWithin n) k v) c outcome c'
  values : ∀ (t : Ty) (found : List Value), t.isFilled = true → ∃ c',
    Gives (values · t found c) (Reader.untilEmpty (Read.typed (Read.variantWithin n) t)
      c.reader.remaining found c.reader, c')
  entries : ∀ (k v : Ty) (found : List (Value × Value)), (Ty.entry k v).isFilled = true → ∃ c',
    Gives (entries · k v found c) (Reader.untilEmpty (Read.entry (Read.variantWithin n) k v)
      c.reader.remaining found c.reader, c')

/-- Loading ends whatever the bytes are, for every type that a signature spells and every other one
without empty structs. -/
theorem loading_ends :
    (∀ spelling t, Ty.parse spelling = .ok t → t.isFilled = true) ∧
      ∀ (n : Nat) (c : Cursor), c.Sound n → c.Terminates n := by
  refine ⟨fun _ _ => Ty.isFilled_of_parse, fun n c hc => ?_⟩
  have hvalue : ∀ {t : Ty} {c : Cursor}, t.isFilled = true → c.Sound n →
      Ends (Read.typed (Read.variantWithin n) t) c (value · t) :=
    ends_value fun c hc => ends_variant n hc
  have hmoves : (Read.variantWithin n).Moves 1 := (Read.moves_variantWithin n).mono (by decide)
  have hentry : ∀ {k v : Ty} {c : Cursor}, (Ty.entry k v).isFilled = true → c.Sound n →
      Ends (Read.entry (Read.variantWithin n) k v) c (entry · k v) := by
    intro k v c h hc
    obtain ⟨hk, hv⟩ := Ty.isFilled_entry.1 h
    exact ends_entry (moves_element hk) (fun c hc => hvalue hk hc) (fun c hc => hvalue hv hc) hc
  exact {
    value := fun t ht => (hvalue ht hc).exists_ended hc (moves_element ht)
    variant := (ends_variant n hc).exists_ended hc hmoves
    entry := fun k v h => (hentry h hc).exists_ended hc (moves_entry hmoves h)
    values := fun t found ht => by
      obtain ⟨c', hloop, -⟩ := (loops_values t).exists_gives (moves_element ht)
        (fun c hc => hvalue ht hc) _ found hc (Nat.le_refl _)
      exact ⟨c', hloop⟩
    entries := fun k v found h => by
      obtain ⟨c', hloop, -⟩ := (loops_entries k v).exists_gives (moves_entry hmoves h)
        (fun c hc => hentry h hc) _ found hc (Nat.le_refl _)
      exact ⟨c', hloop⟩ }

/-- A variant in a variant in a variant. -/
def threefold : ByteArray :=
  ⟨#[1, 118, 0, 1, 118, 0, 1, 121, 0, 7]⟩

/-- A cursor that is inside sixty-two variants already. -/
def deep : Cursor :=
  ⟨.new .little threefold, 62, 62⟩

/-- The third variant is one too many. The counter is then where it was. -/
theorem deep_ends :
    deep.Sound 2 ∧ ∃ c', Gives (variant · deep) (.error .variantTooDeep, c') ∧ c'.depth = 62 ∧
      c'.reader.pos = 9 ∧ c'.deepest ≤ 64 := by
  have hsound : deep.Sound 2 := ⟨Reader.inside_new _ _, by decide, by decide⟩
  obtain ⟨outcome, c', hload, hended⟩ := (loading_ends.2 2 deep hsound).variant
  have hread : (match Read.variantWithin 2 deep.reader with
      | .error .variantTooDeep r => r.pos == 9
      | _ => false) = true := by
    decide +kernel
  split at hread
  · next r hrun =>
    have houtcome := hended.outcome_eq
    have hreader := hended.reader_eq
    rw [perform_of_error hrun] at houtcome hreader
    obtain rfl : .error .variantTooDeep = outcome := houtcome
    obtain rfl : r = c'.reader := hreader
    exact ⟨hsound, c', hload, hended.depth_eq, beq_iff_eq.1 hread, hended.deepest_le⟩
  · cases hread

end Cursor

end DBus
