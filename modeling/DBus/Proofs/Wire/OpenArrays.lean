import DBus.Proofs.Wire.Appending
import DBus.Proofs.Wire.Lengths

/-!
# Bodies with open arrays

A body is written step by step. Some steps start arrays, which later steps end, and any step may fail
and leave what it has written so far. Whatever the steps are, the arrays that are open stand inside
one another, each with room for its length; and only the end of an array changes bytes that were
there before, and then no others than the four that were kept for its length.
-/

namespace DBus

open Write (left)

/-- A body, and the arrays that have been started in it and not yet ended, innermost first. -/
structure Draft where
  body : Writer
  opened : List OpenArray

namespace Draft

/-- A body in which no array is open. -/
def start (w : Writer) : Draft := ⟨w, []⟩

/-! ### Steps -/

/-- What can be done to a draft. -/
inductive Step where
  /-- Stores a value of a type that has the shape of one in a signature: a number or a text, or
  arrays, dicts and structs of values. -/
  | value (v : Value) (shaped : v.ty.isShaped = true)
  /-- Stores a value behind its signature. -/
  | variant (v : Value)
  /-- Pads to a multiple of a power of two. -/
  | align (exponent : Nat)
  /-- Starts an array whose elements are aligned to a power of two. -/
  | arrayStart (exponent : Nat)
  /-- Ends the innermost array that is open, if there is one. -/
  | arrayEnd

/-- Does something to the body of a draft. -/
def onBody {α : Type} (x : Write α) : EStateM Error Draft α := fun d =>
  match x d.body with
  | .ok a w => .ok a { d with body := w }
  | .error e w => .error e { d with body := w }

namespace Step

/-- Does a step. An array is open once it has been started, and no longer open when it was to end,
even if it could not. -/
def perform : Step → EStateM Error Draft Unit
  | .value v _ => onBody (Write.value v)
  | .variant v => onBody (Write.variant v)
  | .align k => onBody (Write.align (2 ^ k))
  | .arrayStart k => do
    let a ← onBody (Write.arrayStart (2 ^ k))
    modify fun d => { d with opened := a :: d.opened }
  | .arrayEnd => do
    match (← get).opened with
    | [] => return
    | a :: rest =>
      modify fun d => { d with opened := rest }
      onBody (Write.arrayEnd a)

/-- Whether a step stores something. -/
def stores : Step → Bool
  | .value _ _ | .variant _ | .arrayStart _ => true
  | .align _ | .arrayEnd => false

end Step

/-- What a step leaves behind, whether it succeeds or fails. -/
def after (d : Draft) (s : Step) : Draft :=
  match s.perform d with
  | .ok _ d' | .error _ d' => d'

/-- What some steps leave behind. -/
def afterAll (d : Draft) (ss : List Step) : Draft :=
  ss.foldl after d

/-! ### Invariants -/

/-- Each array that is open has room for its length inside the body, and stands behind the start of
the elements of every array that it was opened in. -/
structure Sound (d : Draft) : Prop where
  inside : ∀ a ∈ d.opened, a.Inside d.body
  nested : d.opened.Pairwise fun inner outer => outer.start ≤ inner.slot

/-- A later draft. Where no length is to be filled in, the body is what it was. -/
structure Keeps (d d' : Draft) : Prop where
  order_eq : d'.body.order = d.body.order
  length_le : d.body.length ≤ d'.body.length
  getElem?_eq : ∀ i < d.body.length, (∀ a ∈ d.opened, ¬a.Holds i) →
    d'.body.bytes.data[i]? = d.body.bytes.data[i]?
  /-- An array that is open later was open before, or has been started behind the body. -/
  opened : ∀ a ∈ d'.opened, a ∈ d.opened ∨ d.body.length ≤ a.slot

/-- What a step does to a draft. -/
structure Respects (d : Draft) (s : Step) : Prop where
  /-- Every step but the end of an array leaves what is there. -/
  appends : s ≠ .arrayEnd → d.body.Extended (d.after s).body
  /-- A body into which something has been stored is not too long. -/
  within : s.stores = true → ∀ d', s.perform d = .ok () d' → d'.body.length ≤ maxBodyLength
  /-- The end of an array fills in its length. -/
  fills : ∀ a rest d', s = .arrayEnd → d.opened = a :: rest → s.perform d = .ok () d' →
    a.Filled d.body d'.body ∧ d'.opened = rest
  /-- An array that is too long ends without its length. -/
  refuses : ∀ a rest e d', s = .arrayEnd → d.opened = a :: rest → s.perform d = .error e d' →
    (d'.body = d.body ∧ d'.opened = rest) ∧
      ∃ n, a.start + n = d.body.length ∧ maxArrayLength < n ∧ e = .arrayTooLong n

section

variable {d d' d'' : Draft} {w : Writer} {a : OpenArray} {rest : List OpenArray}

theorem sound_start (w : Writer) : (start w).Sound :=
  ⟨nofun, List.Pairwise.nil⟩

/-- No byte is kept for the lengths of two arrays. -/
theorem Sound.disjoint (h : d.Sound) :
    d.opened.Pairwise fun a b => ∀ i, a.Holds i → ¬b.Holds i := by
  refine h.nested.imp_of_mem fun {inner outer} _ houter hle i hinner hslot => ?_
  have houter := (h.inside outer houter).slot_add_le
  have hinner := hinner.1
  have hslot := hslot.2
  omega

theorem Sound.extended (h : d.Sound) (hle : d.body.length ≤ w.length) : Sound ⟨w, d.opened⟩ :=
  ⟨fun a ha => (h.inside a ha).extended hle, h.nested⟩

theorem Sound.push (h : d.Sound) (hle : d.body.length ≤ w.length) (hslot : d.body.length ≤ a.slot)
    (ha : a.Inside w) : Sound ⟨w, a :: d.opened⟩ :=
  ⟨List.forall_mem_cons.2 ⟨ha, (h.extended hle).inside⟩,
    List.pairwise_cons.2 ⟨fun b hb => Nat.le_trans (h.inside b hb).start_le hslot, h.nested⟩⟩

theorem Sound.pop (h : Sound ⟨w, a :: rest⟩) : Sound ⟨w, rest⟩ :=
  ⟨fun b hb => h.inside b (List.mem_cons_of_mem a hb), (List.pairwise_cons.1 h.nested).2⟩

theorem Keeps.refl (d : Draft) : d.Keeps d :=
  ⟨rfl, Nat.le_refl _, fun _ _ _ => rfl, fun _ ha => .inl ha⟩

theorem Keeps.trans (h : d.Keeps d') (h' : d'.Keeps d'') : d.Keeps d'' where
  order_eq := h'.order_eq.trans h.order_eq
  length_le := Nat.le_trans h.length_le h'.length_le
  getElem?_eq := by
    intro i hi hfree
    refine (h'.getElem?_eq i (Nat.lt_of_lt_of_le hi h.length_le) fun a ha hslot => ?_).trans
      (h.getElem?_eq i hi hfree)
    rcases h.opened a ha with hold | hnew
    · exact hfree a hold hslot
    · exact Nat.not_lt.2 (Nat.le_trans hnew hslot.1) hi
  opened := by
    intro a ha
    rcases h'.opened a ha with hold | hnew
    · exact h.opened a hold
    · exact .inr (Nat.le_trans h.length_le hnew)

/-- Where a body is extended, all its bytes are kept. -/
theorem keeps_of_extended (h : d.body.Extended d'.body)
    (hopened : ∀ a ∈ d'.opened, a ∈ d.opened ∨ d.body.length ≤ a.slot) : d.Keeps d' :=
  ⟨h.order_eq, h.length_le, fun _ hi _ => h.getElem? hi, hopened⟩

/-- Where a length is filled in, all other bytes are kept. -/
theorem keeps_of_filled (h : a.Filled d.body w) (hopened : d.opened = a :: rest) :
    d.Keeps ⟨w, rest⟩ where
  order_eq := h.order_eq
  length_le := Nat.le_of_eq h.length_eq.symm
  getElem?_eq i _ hfree := h.getElem?_eq i (hfree a (hopened ▸ List.mem_cons_self))
  opened _ hb := .inl (hopened ▸ List.mem_cons_of_mem a hb)

/-! ### One step -/

theorem after_of_ok {s : Step} {u : Unit} (h : s.perform d = .ok u d') : d.after s = d' := by
  rw [after, h]

theorem after_of_error {s : Step} {e : Error} (h : s.perform d = .error e d') :
    d.after s = d' := by
  rw [after, h]

/-- A step that is done by writing to the body. -/
theorem after_of_onBody {s : Step} {x : Write Unit} (h : s.perform = onBody x) :
    d.after s = ⟨left x d.body, d.opened⟩ := by
  rw [after, h, onBody, left]
  cases x d.body <;> rfl

theorem body_of_onBody {x : Write Unit} (h : onBody x d = .ok () d') :
    x d.body = .ok () d'.body := by
  unfold onBody at h
  cases hx : x d.body with
  | ok _ w =>
    rw [hx] at h
    cases h
    rfl
  | error e w =>
    rw [hx] at h
    cases h

theorem perform_arrayStart_of_ok {k : Nat} (h : Write.arrayStart (2 ^ k) d.body = .ok a w) :
    (Step.arrayStart k).perform d = .ok () ⟨w, a :: d.opened⟩ := by
  have hbody : onBody (Write.arrayStart (2 ^ k)) d = .ok a ⟨w, d.opened⟩ := by
    rw [onBody, h]
  rw [Step.perform, bind_apply_of_ok hbody]
  rfl

theorem perform_arrayStart_of_error {k : Nat} {e : Error}
    (h : Write.arrayStart (2 ^ k) d.body = .error e w) :
    (Step.arrayStart k).perform d = .error e ⟨w, d.opened⟩ := by
  have hbody : onBody (Write.arrayStart (2 ^ k)) d = .error e ⟨w, d.opened⟩ := by
    rw [onBody, h]
  rw [Step.perform, bind_apply_of_error hbody]

theorem perform_arrayEnd (h : d.opened = a :: rest) :
    Step.arrayEnd.perform d = onBody (Write.arrayEnd a) ⟨d.body, rest⟩ := by
  obtain ⟨w, opened⟩ := d
  obtain rfl : opened = a :: rest := h
  rfl

theorem perform_arrayEnd_nil (h : d.opened = []) : Step.arrayEnd.perform d = .ok () d := by
  obtain ⟨w, opened⟩ := d
  obtain rfl : opened = [] := h
  rfl

/-- A step that is done by writing to the body and appends to it. -/
theorem Sound.step_of_onBody {s : Step} {x : Write Unit} (h : d.Sound) (hs : s.perform = onBody x)
    (hx : Write.Appends x) (hne : s ≠ .arrayEnd)
    (hle : s.stores = true → ∀ w, x d.body = .ok () w → w.length ≤ maxBodyLength) :
    (d.after s).Sound ∧ d.Keeps (d.after s) ∧ d.Respects s := by
  have hextended := hx d.body
  rw [after_of_onBody hs]
  refine ⟨h.extended hextended.length_le, keeps_of_extended hextended fun a ha => .inl ha, ?_⟩
  refine ⟨fun _ => ?_, fun hstores d' hd' => ?_, fun _ _ _ heq => ?_, fun _ _ _ _ heq => ?_⟩
  · rwa [after_of_onBody hs]
  · rw [hs] at hd'
    exact hle hstores _ (body_of_onBody hd')
  · exact absurd heq hne
  · exact absurd heq hne

/-- An array is opened behind everything that is there. -/
theorem Sound.step_arrayStart (h : d.Sound) (k : Nat) :
    (d.after (.arrayStart k)).Sound ∧ d.Keeps (d.after (.arrayStart k)) ∧
      d.Respects (.arrayStart k) := by
  have hstarts := Write.appends_arrayStart (2 ^ k)
  cases hstart : Write.arrayStart (2 ^ k) d.body with
  | error e w =>
    have hperform := perform_arrayStart_of_error hstart
    have hextended := hstarts.of_error hstart
    rw [after_of_error hperform]
    refine ⟨h.extended hextended.length_le, keeps_of_extended hextended fun a ha => .inl ha, ?_⟩
    refine ⟨fun _ => ?_, fun _ d' hd' => ?_, nofun, nofun⟩
    · rwa [after_of_error hperform]
    · rw [hperform] at hd'
      cases hd'
  | ok a w =>
    have hperform := perform_arrayStart_of_ok hstart
    have hextended := hstarts.of_ok hstart
    obtain ⟨hslot, ha⟩ := Write.inside_of_arrayStart hstart
    rw [after_of_ok hperform]
    refine ⟨h.push hextended.length_le hslot ha, keeps_of_extended hextended fun b hb => ?_, ?_⟩
    · rcases List.mem_cons.1 hb with rfl | hold
      · exact .inr hslot
      · exact .inl hold
    · refine ⟨fun _ => ?_, fun _ d' hd' => ?_, nofun, nofun⟩
      · rwa [after_of_ok hperform]
      · rw [hperform] at hd'
        cases hd'
        obtain ⟨⟨rfl, -⟩, hle⟩ := Write.arrayStart_eq_ok_iff.1 hstart
        rwa [Writer.length_append, Write.size_openArray]

/-- An array ends in its own slot, or it leaves the body alone. -/
theorem Sound.step_arrayEnd (h : d.Sound) :
    (d.after .arrayEnd).Sound ∧ d.Keeps (d.after .arrayEnd) ∧ d.Respects .arrayEnd := by
  obtain ⟨w, opened⟩ := d
  cases opened with
  | nil =>
    have hperform : Step.arrayEnd.perform ⟨w, []⟩ = .ok () ⟨w, []⟩ := perform_arrayEnd_nil rfl
    rw [after_of_ok hperform]
    refine ⟨h, .refl _, fun hne => absurd rfl hne, nofun, ?_, ?_⟩
    · intro a rest d' _ hopened
      cases hopened
    · intro a rest e d' _ hopened
      cases hopened
  | cons a rest =>
    have ha : a.Inside w := h.inside a List.mem_cons_self
    have hperform : Step.arrayEnd.perform ⟨w, a :: rest⟩ = onBody (Write.arrayEnd a) ⟨w, rest⟩ :=
      perform_arrayEnd rfl
    cases hend : Write.arrayEnd a w with
    | error e w' =>
      obtain ⟨rfl, hlong⟩ := Write.arrayEnd_error ha hend
      rw [onBody, hend] at hperform
      rw [after_of_error hperform]
      refine ⟨h.pop, ⟨rfl, Nat.le_refl _, fun _ _ _ => rfl, ?_⟩, fun hne => absurd rfl hne, nofun,
        ?_, ?_⟩
      · exact fun b hb => .inl (List.mem_cons_of_mem a hb)
      · intro _ _ d' _ _ hd'
        rw [hperform] at hd'
        cases hd'
      · intro _ _ e' d' _ hopened hd'
        rw [hperform] at hd'
        cases hd'
        cases hopened
        exact ⟨⟨rfl, rfl⟩, hlong⟩
    | ok _ w' =>
      have hfilled := Write.filled_of_arrayEnd ha hend
      rw [onBody, hend] at hperform
      rw [after_of_ok hperform]
      refine ⟨h.pop.extended (Nat.le_of_eq hfilled.length_eq.symm), keeps_of_filled hfilled rfl,
        fun hne => absurd rfl hne, nofun, ?_, ?_⟩
      · intro _ _ d' _ hopened hd'
        rw [hperform] at hd'
        cases hd'
        cases hopened
        exact ⟨hfilled, rfl⟩
      · intro _ _ e' d' _ _ hd'
        rw [hperform] at hd'
        cases hd'

/-- One step. -/
theorem Sound.step (h : d.Sound) (s : Step) :
    (d.after s).Sound ∧ d.Keeps (d.after s) ∧ d.Respects s := by
  cases s with
  | value v hshape =>
    exact h.step_of_onBody rfl (Write.appends_value v) nofun
      fun _ _ hv => Write.length_le_of_value hshape hv
  | variant v =>
    exact h.step_of_onBody rfl (Write.appends_value (.variant v)) nofun
      fun _ _ hv => Write.length_le_of_value (v := .variant v) rfl hv
  | align k => exact h.step_of_onBody rfl (Write.appends_align _) nofun nofun
  | arrayStart k => exact h.step_arrayStart k
  | arrayEnd => exact h.step_arrayEnd

/-! ### All steps -/

theorem Sound.afterAll (h : d.Sound) (ss : List Step) :
    (d.afterAll ss).Sound ∧ d.Keeps (d.afterAll ss) := by
  induction ss generalizing d with
  | nil => exact ⟨h, .refl d⟩
  | cons s ss ih =>
    obtain ⟨hsound, hkeeps, -⟩ := h.step s
    obtain ⟨hsound', hkeeps'⟩ := ih hsound
    exact ⟨hsound', hkeeps.trans hkeeps'⟩

/-- Whatever has been done to a body and whatever is done then, each array that is open has room for
its length, apart from that of all others; a step appends, or it fills in the length of the array that
it ends; and what the body holds outside the open lengths is there to stay. -/
theorem steps_fill_own_slots (w : Writer) (before : List Step) :
    let d := (start w).afterAll before
    d.Sound ∧ (d.opened.Pairwise fun a b => ∀ i, a.Holds i → ¬b.Holds i) ∧
      (∀ s, d.Respects s) ∧ ∀ behind, d.Keeps ((start w).afterAll (before ++ behind)) := by
  intro d
  obtain ⟨hsound, -⟩ := (sound_start w).afterAll before
  refine ⟨hsound, hsound.disjoint, fun s => (hsound.step s).2.2, fun behind => ?_⟩
  rw [afterAll, List.foldl_append]
  exact (hsound.afterAll behind).2

-- a text that is refused between two starts leaves no gap between the lengths
example : ((start (.new .little)).afterAll [.arrayStart 2, .value (.string "\x00") rfl, .arrayStart 3,
    .value (.byte 7) rfl, .arrayEnd, .arrayEnd]).body.bytes.data
      = #[5, 0, 0, 0, 1, 0, 0, 0, 7] := by
  rfl

end

end Draft

end DBus
