import DBus.Proofs.Signature.WellFormed
import DBus.Proofs.Steps
import DBus.Signature

/-!
# Reading signatures

The scan of a signature reads just the texts that spell well-formed types, and gives back the types
that are spelled (`parseAll_eq_ok_iff`). One direction runs the scan over a spelling, with
anything open around it; the other one keeps the text read so far as the spelling of what the state
holds.
-/

namespace DBus

namespace Scan

open Ty

/-- Whether a type may be spelled where some frames are open. -/
structure Fits (frames : List Frame) (t : Ty) : Prop where
  shaped : t.isShaped = true
  arrays_le : arrays frames + t.nesting isArray ≤ 32
  structs_le : structs frames + t.nesting isStruct ≤ 32

@[simp] theorem arrays_array (fs : List Frame) : arrays (.array :: fs) = arrays fs + 1 := by
  simp [arrays]

@[simp] theorem arrays_struct (us : List Ty) (fs : List Frame) :
    arrays (.struct us :: fs) = arrays fs := by
  simp [arrays]

@[simp] theorem arrays_entry (fs : List Frame) : arrays (.entry :: fs) = arrays fs := by
  simp [arrays]

@[simp] theorem arrays_keyed (k : Ty) (fs : List Frame) :
    arrays (.keyed k :: fs) = arrays fs := by
  simp [arrays]

@[simp] theorem arrays_full (k v : Ty) (fs : List Frame) :
    arrays (.full k v :: fs) = arrays fs := by
  simp [arrays]

@[simp] theorem structs_array (fs : List Frame) : structs (.array :: fs) = structs fs := by
  simp [structs]

@[simp] theorem structs_struct (us : List Ty) (fs : List Frame) :
    structs (.struct us :: fs) = structs fs + 1 := by
  simp [structs]

@[simp] theorem structs_entry (fs : List Frame) : structs (.entry :: fs) = structs fs := by
  simp [structs]

@[simp] theorem structs_keyed (k : Ty) (fs : List Frame) :
    structs (.keyed k :: fs) = structs fs := by
  simp [structs]

@[simp] theorem structs_full (k v : Ty) (fs : List Frame) :
    structs (.full k v :: fs) = structs fs := by
  simp [structs]

theorem fits_nil_iff {t : Ty} : Fits [] t ↔ t.WellFormed := by
  constructor
  · rintro ⟨h, ha, hs⟩
    exact ⟨h, by simpa [Scan.arrays] using ha, by simpa [Scan.structs] using hs⟩
  · rintro ⟨h, ha, hs⟩
    exact ⟨h, by simpa [Scan.arrays] using ha, by simpa [Scan.structs] using hs⟩

/-- Only the number of open arrays and structs matters. -/
theorem Fits.congr {fs gs : List Frame} {t : Ty} (h : Fits fs t) (ha : arrays fs = arrays gs)
    (hs : structs fs = structs gs) : Fits gs t :=
  ⟨h.shaped, ha ▸ h.arrays_le, hs ▸ h.structs_le⟩

theorem fits_array_iff {fs : List Frame} {t : Ty} (ht : t.isShaped = true) :
    Fits fs (.array t) ↔ Fits (.array :: fs) t := by
  constructor
  · rintro ⟨-, ha, hs⟩
    simp only [nesting, isArray, isStruct, Bool.toNat_true, Bool.toNat_false] at ha hs
    exact ⟨ht, by rw [arrays_array]; omega, by rw [structs_array]; omega⟩
  · rintro ⟨-, ha, hs⟩
    rw [arrays_array] at ha
    rw [structs_array] at hs
    refine ⟨isShaped_array ht, ?_, ?_⟩ <;>
      simp only [nesting, isArray, isStruct, Bool.toNat_true, Bool.toNat_false] <;> omega

theorem fits_dict_iff {fs : List Frame} {k v : Ty} :
    Fits fs (.array (.entry k v)) ↔ k.isBasic = true ∧ Fits (.array :: fs) v := by
  have hk (c : Ty → Bool) (hc : ∀ b, c (.basic b) = false) (h : k.isBasic = true) :
      max (nesting c k) (nesting c v) = nesting c v := by
    rw [nesting_eq_zero_of_isBasic h hc, Nat.zero_max]
  constructor
  · rintro ⟨h, ha, hs⟩
    simp only [isShaped, Bool.and_eq_true] at h
    simp only [nesting, isArray, isStruct, Bool.toNat_true, Bool.toNat_false,
      hk isArray (fun _ => rfl) h.1, hk isStruct (fun _ => rfl) h.1] at ha hs
    exact ⟨h.1, h.2, by rw [arrays_array]; omega, by rw [structs_array]; omega⟩
  · rintro ⟨h, hv, ha, hs⟩
    rw [arrays_array] at ha
    rw [structs_array] at hs
    refine ⟨by simp [isShaped, h, hv], ?_, ?_⟩ <;>
      simp only [nesting, isArray, isStruct, Bool.toNat_true, Bool.toNat_false,
        hk isArray (fun _ => rfl) h, hk isStruct (fun _ => rfl) h] <;> omega

theorem fits_struct_iff {fs : List Frame} {us : List Ty} :
    Fits fs (.struct us) ↔ us ≠ [] ∧ ∀ u ∈ us, Fits (.struct [] :: fs) u := by
  have hbound (c : Ty → Bool) (m n : Nat) (hm : us ≠ []) :
      m + nestings c us ≤ n ↔ ∀ u ∈ us, m + nesting c u ≤ n := by
    obtain ⟨u, us, rfl⟩ := List.exists_cons_of_ne_nil hm
    constructor
    · intro h v hv
      have := (nestings_le_iff c _ (n - m)).1 (by omega) v hv
      omega
    · intro h
      have h0 := h u (List.mem_cons_self ..)
      have := (nestings_le_iff c (u :: us) (n - m)).2 fun v hv => by have := h v hv; omega
      omega
  constructor
  · rintro ⟨h, ha, hs⟩
    simp only [isShaped, Bool.and_eq_true, Bool.not_eq_true', List.isEmpty_eq_false_iff,
      areShaped_iff] at h
    simp only [nesting, isArray, isStruct, Bool.toNat_true, Bool.toNat_false, Nat.zero_add,
      ← Nat.add_assoc, hbound _ _ _ h.1] at ha hs
    refine ⟨h.1, fun u hu => ⟨h.2 u hu, ?_, ?_⟩⟩
    · rw [arrays_struct]; exact ha u hu
    · rw [structs_struct]; exact hs u hu
  · rintro ⟨hne, h⟩
    refine ⟨?_, ?_, ?_⟩
    · simp only [isShaped, Bool.and_eq_true, Bool.not_eq_true', List.isEmpty_eq_false_iff,
        areShaped_iff]
      exact ⟨hne, fun u hu => (h u hu).shaped⟩
    · simp only [nesting, isArray, Bool.toNat_false, Nat.zero_add, hbound _ _ _ hne]
      exact fun u hu => by simpa using (h u hu).arrays_le
    · simp only [nesting, isStruct, Bool.toNat_true, ← Nat.add_assoc, hbound _ _ _ hne]
      exact fun u hu => by simpa using (h u hu).structs_le

/-! ### Spellings are read -/

/-- A character that neither closes anything nor opens a dict entry begins a type, except in a dict
entry that is complete. -/
theorem step_eq_begin {fs : List Frame} {done : List Ty} {c : Char}
    (hfs : ∀ k v gs, fs ≠ .full k v :: gs) (hp : c ≠ ')') (hb : c ≠ '\x7d') (ho : c ≠ '\x7b') :
    step ⟨fs, done⟩ c = begin c ⟨fs, done⟩ := by
  unfold step
  split <;> simp_all

theorem begin_code (b : BasicType) (s : Scan) : begin b.code s = close (.basic b) s.frames s.done := by
  simp [begin, BasicType.ofCode?_code]

theorem begin_variant (s : Scan) : begin 'v' s = close .variant s.frames s.done := rfl

theorem begin_array {s : Scan} (ha : arrays s.frames < 32) (hs : structs s.frames ≤ 32) :
    begin 'a' s = .ok ⟨.array :: s.frames, s.done⟩ := by
  have h : ¬(arrays s.frames = 32 ∨ arrays s.frames + structs s.frames = 64) := by omega
  exact if_neg h

theorem begin_struct {s : Scan} (ha : arrays s.frames ≤ 32) (hs : structs s.frames < 32) :
    begin '(' s = .ok ⟨.struct [] :: s.frames, s.done⟩ := by
  have h : ¬(structs s.frames = 32 ∨ arrays s.frames + structs s.frames = 64) := by omega
  exact if_neg h

theorem step_close_struct {us : List Ty} (fs : List Frame) (done : List Ty) (h : us ≠ []) :
    step ⟨.struct us :: fs, done⟩ ')' = close (.struct us) fs done := by
  cases us with
  | nil => exact absurd rfl h
  | cons u us => rfl

mutual

/-- Reading the spelling of a type puts the type where it belongs. -/
theorem foldlM_spelling {t : Ty} {fs : List Frame} (done : List Ty) (h : Fits fs t)
    (hfs : ∀ k v gs, fs ≠ .full k v :: gs) : t.spelling.foldlM step ⟨fs, done⟩ = close t fs done := by
  have ha := h.arrays_le
  have hs := h.structs_le
  match t with
  | .basic b =>
    obtain ⟨-, -, -, ho⟩ := code_ne b
    have hp : b.code ≠ ')' := by cases b <;> decide
    have hb : b.code ≠ '\x7d' := by cases b <;> decide
    rw [spelling, List.foldlM_cons, step_eq_begin hfs hp hb ho, begin_code]
    simp
  | .variant =>
    rw [spelling, List.foldlM_cons, step_eq_begin hfs (by decide) (by decide) (by decide),
      begin_variant]
    simp
  | .array element =>
    simp only [nesting, isArray, isStruct, Bool.toNat_true, Bool.toNat_false] at ha hs
    have hopen : step ⟨fs, done⟩ 'a' = .ok ⟨.array :: fs, done⟩ := by
      rw [step_eq_begin hfs (by decide) (by decide) (by decide)]
      exact begin_array (by simp only; omega) (by simp only; omega)
    rcases isShaped_of_array h.shaped with he | ⟨k, v, rfl, hk, hv⟩
    · have := foldlM_spelling done ((fits_array_iff he).1 h) (by simp)
      rw [spelling, List.foldlM_cons, hopen]
      exact this
    · obtain ⟨b, rfl⟩ : ∃ b, k = .basic b := by cases k <;> simp_all [isBasic, basic?]
      have hv : Fits (.keyed (.basic b) :: .array :: fs) v := ((fits_dict_iff).1 h).2.congr rfl rfl
      have hvalue := foldlM_spelling done hv (by simp)
      have hkey : step ⟨.entry :: .array :: fs, done⟩ b.code
          = .ok ⟨.keyed (.basic b) :: .array :: fs, done⟩ := by
        cases b <;> rfl
      have hclose : step ⟨.full (.basic b) v :: .array :: fs, done⟩ '\x7d'
          = close (.array (.entry (.basic b) v)) fs done := rfl
      have hbrace : step ⟨.array :: fs, done⟩ '\x7b' = .ok ⟨.entry :: .array :: fs, done⟩ := rfl
      simp only [spelling, List.cons_append, List.nil_append, List.foldlM_cons, List.foldlM_append,
        List.foldlM_nil, hopen, hbrace, hkey, hvalue, ok_bind, close, hclose, bind_pure]
  | .struct us =>
    obtain ⟨hne, hus⟩ := fits_struct_iff.1 h
    have hfields := foldlM_spellings done hus
    simp only [nesting, isArray, isStruct, Bool.toNat_true, Bool.toNat_false] at ha hs
    have hopen : step ⟨fs, done⟩ '(' = .ok ⟨.struct [] :: fs, done⟩ := by
      rw [step_eq_begin hfs (by decide) (by decide) (by decide)]
      exact begin_struct (by simp only; omega) (by simp only; omega)
    have hclose := step_close_struct fs done hne
    simp only [spelling, List.cons_append, List.nil_append, List.foldlM_cons, List.foldlM_append,
      List.foldlM_nil, hopen, hfields, ok_bind, hclose, bind_pure]
  | .entry k v => exact absurd h.shaped (by simp [isShaped])
termination_by sizeOf t

/-- Reading the spelling of the fields of a struct adds the fields. -/
theorem foldlM_spellings {ts us : List Ty} {fs : List Frame} (done : List Ty)
    (h : ∀ t ∈ ts, Fits (.struct us :: fs) t) :
    (spellings ts).foldlM step ⟨.struct us :: fs, done⟩ = .ok ⟨.struct (us ++ ts) :: fs, done⟩ := by
  match ts with
  | [] => simp [spellings, pure, Except.pure]
  | t :: ts =>
    have ht := foldlM_spelling done (h t (List.mem_cons_self ..)) (by simp)
    have hrest : ∀ u ∈ ts, Fits (.struct (us ++ [t]) :: fs) u := fun u hu =>
      (h u (List.mem_cons_of_mem _ hu)).congr (by simp) (by simp)
    have hts := foldlM_spellings done hrest
    rw [spellings, List.foldlM_append, ht]
    simpa [close, bind, Except.bind] using hts
termination_by sizeOf ts

end

/-! ### What is read is a spelling -/

/-- What one character does to a scan. -/
inductive Step (s : Scan) : Char → Scan → Prop where
  | leaf {t : Ty} {c : Char} {s' : Scan} (spelled : t.spelling = [c])
      (closed : close t s.frames s.done = .ok s') : Step s c s'
  | array (room : arrays s.frames ≠ 32) : Step s 'a' ⟨.array :: s.frames, s.done⟩
  | struct (room : structs s.frames ≠ 32) : Step s '(' ⟨.struct [] :: s.frames, s.done⟩
  | entry {fs : List Frame} (top : s.frames = .array :: fs) :
      Step s '\x7b' ⟨.entry :: s.frames, s.done⟩
  | closeStruct {us : List Ty} {fs : List Frame} {s' : Scan} (top : s.frames = .struct us :: fs)
      (ne : us ≠ []) (closed : close (.struct us) fs s.done = .ok s') : Step s ')' s'
  | closeEntry {k v : Ty} {fs : List Frame} {s' : Scan} (top : s.frames = .full k v :: fs)
      (closed : close (.entry k v) fs s.done = .ok s') : Step s '\x7d' s'

theorem Step.of_begin {s s' : Scan} {c : Char} (h : begin c s = .ok s') : Step s c s' := by
  unfold begin at h
  split at h
  · next b hb => exact .leaf (t := .basic b) (by rw [spelling, BasicType.code_of_ofCode? hb]) h
  · split at h
    · exact .leaf (t := .variant) rfl h
    · split at h
      · cases h
      · next room => cases h; exact .array fun e => room (.inl e)
    · split at h
      · cases h
      · next room => cases h; exact .struct fun e => room (.inl e)
    all_goals cases h

theorem Step.of_step {s s' : Scan} {c : Char} (h : step s c = .ok s') : Step s c s' := by
  unfold step at h
  split at h
  · next fs hfs => cases h; exact hfs ▸ .entry hfs
  · cases h
  · cases h
  · cases h
  · next us fs hne hfs => exact .closeStruct hfs hne h
  · cases h
  · cases h
  · next k v fs hfs => exact .closeEntry hfs h
  · cases h
  · exact .of_begin h

/-- Frames that can be open in a signature. -/
inductive Nested : List Frame → Prop where
  | nil : Nested []
  | array {fs : List Frame} (room : arrays fs < 32) (rest : Nested fs) : Nested (.array :: fs)
  | struct {us : List Ty} {fs : List Frame} (room : structs fs < 32)
      (fields : ∀ u ∈ us, Fits (.struct [] :: fs) u) (rest : Nested fs) : Nested (.struct us :: fs)
  | entry {fs : List Frame} (rest : Nested (.array :: fs)) : Nested (.entry :: .array :: fs)
  | keyed {k : Ty} {fs : List Frame} (basic : k.isBasic = true) (rest : Nested (.array :: fs)) :
      Nested (.keyed k :: .array :: fs)
  | full {k v : Ty} {fs : List Frame} (basic : k.isBasic = true) (value : Fits (.array :: fs) v)
      (rest : Nested (.array :: fs)) : Nested (.full k v :: .array :: fs)

theorem Nested.counts_le {fs : List Frame} (h : Nested fs) : arrays fs ≤ 32 ∧ structs fs ≤ 32 := by
  induction h with
  | nil => simp [Scan.arrays, Scan.structs]
  | array room _ ih => simp; omega
  | struct room _ _ ih => simp; omega
  | entry _ ih | keyed _ _ ih | full _ _ _ ih => simpa using ih

/-- The text that opens a frame and spells what it holds. -/
def frameText : Frame → List Char
  | .array => ['a']
  | .struct us => '(' :: spellings us
  | .entry => ['\x7b']
  | .keyed k => '\x7b' :: spelling k
  | .full k v => '\x7b' :: spelling k ++ spelling v

/-- The text of some frames, innermost first. -/
def framesText : List Frame → List Char
  | [] => []
  | f :: fs => framesText fs ++ frameText f

/-- The text that a scan has read. -/
def text (s : Scan) : List Char :=
  spellings s.done ++ framesText s.frames

/-- A scan that can be met in the reading of a signature. -/
structure Sound (s : Scan) : Prop where
  done : ∀ t ∈ s.done, t.WellFormed
  nested : Nested s.frames

theorem sound_start : Sound start := ⟨by simp [start], .nil⟩

/-- A type that fits is added to what has been read. -/
theorem close_sound : ∀ {fs : List Frame} {t : Ty} {done : List Ty} {s' : Scan},
    close t fs done = .ok s' → Sound ⟨fs, done⟩ → Fits fs t →
    Sound s' ∧ s'.text = text ⟨fs, done⟩ ++ t.spelling
  | [], t, done, s', h, hs, ht => by
    cases h
    refine ⟨⟨?_, .nil⟩, by simp [text, framesText, spellings_append, spellings]⟩
    intro u hu
    rcases List.mem_append.1 hu with hu | hu
    · exact hs.done u hu
    · rw [List.mem_singleton.1 hu]
      exact fits_nil_iff.1 ht
  | .array :: fs, t, done, s', h, hs, ht => by
    obtain ⟨hd, hn⟩ := hs
    cases hn with
    | array room rest =>
      have hs : Sound ⟨fs, done⟩ := ⟨hd, rest⟩
      obtain ⟨hs', htext⟩ := close_sound (t := .array t) h hs ((fits_array_iff ht.shaped).2 ht)
      exact ⟨hs', by rw [htext]; simp [text, framesText, frameText, spelling]⟩
  | .struct us :: fs, t, done, s', h, hs, ht => by
    obtain ⟨hd, hn⟩ := hs
    cases h
    cases hn with
    | struct room fields rest =>
      refine ⟨⟨hd, .struct room ?_ rest⟩, ?_⟩
      · intro u hu
        rcases List.mem_append.1 hu with hu | hu
        · exact fields u hu
        · rw [List.mem_singleton.1 hu]
          exact ht.congr (by simp) (by simp)
      · simp [text, framesText, frameText, spellings_append, spellings]
  | .entry :: fs, t, done, s', h, hs, ht => by
    obtain ⟨hd, hn⟩ := hs
    rw [close] at h
    split at h
    · next hb =>
      cases h
      cases hn with
      | entry rest =>
        exact ⟨⟨hd, .keyed hb rest⟩, by simp [text, framesText, frameText]⟩
    · cases h
  | .keyed k :: fs, t, done, s', h, hs, ht => by
    obtain ⟨hd, hn⟩ := hs
    cases h
    cases hn with
    | keyed hb rest =>
      exact ⟨⟨hd, .full hb (ht.congr rfl rfl) rest⟩, by simp [text, framesText, frameText]⟩
  | .full k v :: fs, t, done, s', h, _, _ => by cases h

theorem leaf_fits {fs : List Frame} {t : Ty} {c : Char} (h : Nested fs) (ht : t.spelling = [c]) :
    Fits fs t := by
  obtain ⟨ha, hs⟩ := h.counts_le
  cases t with
  | basic b => exact ⟨rfl, by simpa [nesting, isArray] using ha, by simpa [nesting, isStruct] using hs⟩
  | variant => exact ⟨rfl, by simpa [nesting, isArray] using ha, by simpa [nesting, isStruct] using hs⟩
  | array element => simp [spelling, spelling_ne_nil] at ht
  | struct fields => simp [spelling] at ht
  | entry k v => simp [spelling] at ht

/-- One character more is read, and nothing that does not fit. -/
theorem step_sound {s s' : Scan} {c : Char} (h : step s c = .ok s') (hs : Sound s) :
    Sound s' ∧ s'.text = s.text ++ [c] := by
  obtain ⟨frames, done⟩ := s
  obtain ⟨hd, hn⟩ := hs
  obtain ⟨ha, hst⟩ := hn.counts_le
  cases Step.of_step h with
  | leaf spelled closed =>
    rw [← spelled]
    exact close_sound closed ⟨hd, hn⟩ (leaf_fits hn spelled)
  | array room =>
    exact ⟨⟨hd, .array (Nat.lt_of_le_of_ne ha room) hn⟩, by simp [text, framesText, frameText]⟩
  | struct room =>
    exact ⟨⟨hd, .struct (Nat.lt_of_le_of_ne hst room) (by simp) hn⟩,
      by simp [text, framesText, frameText, spellings]⟩
  | entry top =>
    cases top
    exact ⟨⟨hd, .entry hn⟩, by simp [text, framesText, frameText]⟩
  | @closeStruct us fs _ top ne closed =>
    cases top
    cases hn with
    | struct room fields rest =>
      have hrest : Sound ⟨fs, done⟩ := ⟨hd, rest⟩
      obtain ⟨hs', htext⟩ := close_sound closed hrest (fits_struct_iff.2 ⟨ne, fields⟩)
      exact ⟨hs', by rw [htext]; simp [text, framesText, frameText, spelling]⟩
  | @closeEntry k v _ _ top closed =>
    cases top
    cases hn with
    | @full _ _ fs basic value rest =>
      cases rest with
      | array room rest =>
        have hrest : Sound ⟨fs, done⟩ := ⟨hd, rest⟩
        obtain ⟨hs', htext⟩ :=
          close_sound (t := .array (.entry k v)) closed hrest (fits_dict_iff.2 ⟨basic, value⟩)
        exact ⟨hs', by rw [htext]; simp [text, framesText, frameText, spelling]⟩

/-- A whole text is read as it stands. -/
theorem foldlM_sound : ∀ {cs : List Char} {s s' : Scan}, cs.foldlM step s = .ok s' → Sound s →
    Sound s' ∧ s'.text = s.text ++ cs
  | [], s, s', h, hs => by
    cases h
    exact ⟨hs, by simp⟩
  | c :: cs, s, s', h, hs => by
    rw [List.foldlM_cons] at h
    obtain ⟨s₁, h₁, h⟩ := bind_eq_ok_iff.1 h
    obtain ⟨hs₁, ht₁⟩ := step_sound h₁ hs
    obtain ⟨hs', ht'⟩ := foldlM_sound h hs₁
    exact ⟨hs', by simp [ht', ht₁]⟩

theorem finish_eq_ok {s : Scan} {ts : List Ty} (h : finish s = .ok ts) : s = ⟨[], ts⟩ := by
  obtain ⟨frames, done⟩ := s
  unfold finish at h
  split at h
  · next hf => cases h; cases hf; rfl
  all_goals cases h

end Scan

namespace Ty

open Scan

/-- What is read from a text is spelled by it. -/
theorem parseAll_sound {s : String} {ts : List Ty} (h : parseAll s = .ok ts) :
    s.utf8ByteSize ≤ 255 ∧ signatureOf ts = s ∧ ∀ t ∈ ts, t.WellFormed := by
  unfold parseAll at h
  split at h
  · cases h
  · next hlen =>
    obtain ⟨st, hst, hfin⟩ := bind_eq_ok_iff.1 h
    obtain ⟨hsound, htext⟩ := foldlM_sound hst sound_start
    rw [finish_eq_ok hfin] at hsound htext
    have hsp : spellings ts = s.toList := by simpa [text, framesText, start, spellings] using htext
    refine ⟨by unfold lengthLimit at hlen; omega, ?_, hsound.done⟩
    rw [signatureOf, hsp, String.ofList_toList]

/-- Reading the spellings of well-formed types one after the other collects the types. -/
theorem foldlM_spellings_nil : ∀ {ts : List Ty} (done : List Ty), (∀ t ∈ ts, t.WellFormed) →
    (spellings ts).foldlM step ⟨[], done⟩ = .ok ⟨[], done ++ ts⟩
  | [], done, _ => by simp [spellings, pure, Except.pure]
  | t :: ts, done, h => by
    have ht := foldlM_spelling done (fits_nil_iff.2 (h t (List.mem_cons_self ..))) (by simp)
    have hts := foldlM_spellings_nil (done ++ [t])
      fun u hu => h u (List.mem_cons_of_mem _ hu)
    rw [spellings, List.foldlM_append, ht]
    simpa [close] using hts

/-- What well-formed types spell is read, if it is short enough. -/
theorem parseAll_signatureOf {ts : List Ty} (h : ∀ t ∈ ts, t.WellFormed)
    (hlen : (signatureOf ts).utf8ByteSize ≤ 255) : parseAll (signatureOf ts) = .ok ts := by
  have hlen : ¬lengthLimit ≤ (signatureOf ts).utf8ByteSize := by unfold lengthLimit; omega
  rw [parseAll, if_neg hlen, signatureOf, String.toList_ofList, start, foldlM_spellings_nil [] h]
  rfl

theorem parseAll_eq_ok_iff {s : String} {ts : List Ty} :
    parseAll s = .ok ts ↔
      s.utf8ByteSize ≤ 255 ∧ signatureOf ts = s ∧ ∀ t ∈ ts, t.WellFormed := by
  constructor
  · exact parseAll_sound
  · rintro ⟨hlen, rfl, h⟩
    exact parseAll_signatureOf h hlen

/-- A text spells one type when it spells a list of one. -/
theorem parse_eq_ok_iff {s : String} {t : Ty} : parse s = .ok t ↔ parseAll s = .ok [t] := by
  unfold parse
  rw [bind_eq_ok_iff]
  constructor
  · rintro ⟨ts, hts, h⟩
    split at h
    · cases h; exact hts
    · cases h
  · intro h
    exact ⟨[t], h, rfl⟩

/-- A type that was read is spelled as it was read. -/
theorem signature_of_parse {s : String} {t : Ty} (h : parse s = .ok t) : t.signature = s := by
  obtain ⟨-, hspelled, -⟩ := parseAll_sound (parse_eq_ok_iff.1 h)
  rwa [signatureOf_singleton] at hspelled

/-- The signatures are the texts of at most 255 bytes that are made of the signatures of well-formed
types, and reading one gives back these types: reading undoes printing, and printing undoes
reading. -/
theorem parseAll_eq_ok_iff_join :
    (∀ (s : String) (ts : List Ty), parseAll s = .ok ts ↔
      s.utf8ByteSize ≤ 255 ∧ String.join (ts.map signature) = s ∧ ∀ t ∈ ts, t.WellFormed) ∧
    (∀ (s : String) (ts : List Ty), parseAll s = .ok ts → String.join (ts.map signature) = s) ∧
    (∀ ts : List Ty, (∀ t ∈ ts, t.WellFormed) →
      (String.join (ts.map signature)).utf8ByteSize ≤ 255 →
      parseAll (String.join (ts.map signature)) = .ok ts) ∧
    ∀ (s : String) (t : Ty), parse s = .ok t ↔ parseAll s = .ok [t] := by
  refine ⟨fun s ts => ?_, fun s ts h => ?_, fun ts h hlen => ?_, fun s t => parse_eq_ok_iff⟩
  · rw [← signatureOf_eq_join]
    exact parseAll_eq_ok_iff
  · rw [← signatureOf_eq_join]
    exact (parseAll_sound h).2.1
  · rw [← signatureOf_eq_join] at hlen ⊢
    exact parseAll_signatureOf h hlen

/-- A dictionary and a struct behind it. -/
theorem parseAll_dict_struct :
    parseAll "a\x7bsv\x7d(ii)" =
      .ok [.array (.entry (.basic .string) .variant), .struct [.basic .int32, .basic .int32]] :=
  (parseAll_eq_ok_iff_join.1 _ _).2 ⟨by decide, by decide, by decide⟩

end Ty

namespace Signature

theorem ofString_isOk_iff {s : String} :
    (ofString s).isOk = true ↔ ∃ ts, Ty.parseAll s = .ok ts := by
  unfold ofString
  split
  · next ts h => exact ⟨fun _ => ⟨ts, h⟩, fun _ => rfl⟩
  · next e h => exact ⟨nofun, by rintro ⟨ts, hts⟩; rw [h] at hts; cases hts⟩

/-- The text of one type is a signature. -/
theorem ofString_isOk_of_parse {s : String} {t : Ty} (h : Ty.parse s = .ok t) :
    (ofString s).isOk = true :=
  ofString_isOk_iff.2 ⟨[t], Ty.parse_eq_ok_iff.1 h⟩

theorem parseAll_text (g : Signature) : Ty.parseAll g.text = .ok g.types := by
  have h := g.spells
  unfold types
  cases hp : Ty.parseAll g.text with
  | ok ts => rfl
  | error e => rw [hp] at h; cases h

/-- A signature is spelled by its types. -/
theorem signatureOf_types (g : Signature) : Ty.signatureOf g.types = g.text :=
  (Ty.parseAll_sound g.parseAll_text).2.1

theorem ofString_text (g : Signature) : ofString g.text = .ok g := by
  unfold ofString
  split
  · rfl
  · next e he => rw [parseAll_text] at he; cases he

theorem text_of_ofString {s : String} {g : Signature} (h : ofString s = .ok g) : g.text = s := by
  unfold ofString at h
  split at h
  · cases h
    rfl
  · cases h

end Signature

end DBus
