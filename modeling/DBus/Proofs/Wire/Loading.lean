import DBus.Proofs.Wire.Marshalling

/-!
# What is read was marshalled

The converse of reading back: whatever the bytes are, an action that succeeds has found the template
of what it gives. It went on behind that template, the bytes that mean something stood where the
template has them, and the padding made no difference. So a value of a type is read from its
marshalled form alone, up to padding.
-/

namespace DBus

namespace Reader

/-- A window that lies inside its body. -/
structure Inside (r : Reader) : Prop where
  pos_le : r.pos ≤ r.stop
  stop_le : r.stop ≤ r.data.size

/-- A window that begins with some slots, with anything in the place of padding. -/
structure Shows (r : Reader) (slots : List Slot) : Prop where
  room : r.pos + slots.length ≤ r.stop
  bytes : ∀ i b, slots[i]? = some (.byte b) → r.data.data.toList[r.pos + i]? = some b

variable {r : Reader} {p q : List Slot}

theorem inside_new (order : ByteOrder) (data : ByteArray) : (new order data).Inside :=
  ⟨Nat.zero_le _, Nat.le_refl _⟩

theorem Inside.skip (h : r.Inside) (hp : r.Shows p) : (r.skip p.length).Inside :=
  ⟨hp.room, h.stop_le⟩

theorem Shows.append (hp : r.Shows p) (hq : (r.skip p.length).Shows q) : r.Shows (p ++ q) := by
  refine ⟨?_, fun i b h => ?_⟩
  · rw [List.length_append, ← Nat.add_assoc]
    exact hq.room
  · rcases Nat.lt_or_ge i p.length with hi | hi
    · rw [List.getElem?_append_left hi] at h
      exact hp.bytes i b h
    · rw [List.getElem?_append_right hi] at h
      have hbyte := hq.bytes _ b h
      have hindex : r.pos + i = (r.skip p.length).pos + (i - p.length) := by
        show r.pos + i = r.pos + p.length + (i - p.length)
        omega
      rwa [hindex]

theorem Shows.left (h : r.Shows (p ++ q)) : r.Shows p := by
  refine ⟨?_, fun i b hi => ?_⟩
  · have hroom := h.room
    rw [List.length_append] at hroom
    omega
  · refine h.bytes i b ?_
    rw [List.getElem?_append_left (List.getElem?_eq_some_iff.1 hi).1, hi]

theorem Shows.right (h : r.Shows (p ++ q)) : (r.skip p.length).Shows q := by
  refine ⟨?_, fun i b hi => ?_⟩
  · have hroom := h.room
    rw [List.length_append, ← Nat.add_assoc] at hroom
    exact hroom
  · have hbyte := h.bytes (p.length + i) b
      (by rw [List.getElem?_append_right (Nat.le_add_right ..), Nat.add_sub_cancel_left, hi])
    rwa [← Nat.add_assoc] at hbyte

theorem Shows.nil (h : r.Inside) : r.Shows [] :=
  ⟨h.pos_le, nofun⟩

/-- The bytes that a window shows are those that stand there. -/
theorem Shows.bytes_eq {bs : List UInt8} (h : r.Shows (bs.map .byte)) :
    (r.data.data.toList.drop r.pos).take bs.length = bs := by
  refine List.ext_getElem? fun i => ?_
  rw [List.getElem?_take, List.getElem?_drop]
  split
  · next hi =>
    rw [List.getElem?_eq_getElem hi]
    refine h.bytes i bs[i] ?_
    rw [List.getElem?_map, List.getElem?_eq_getElem hi]
    rfl
  · next hi => rw [List.getElem?_eq_none (Nat.not_lt.1 hi)]

end Reader

namespace Read

open Template

variable {α β : Type} {r r' r₁ : Reader} {p q : List Slot}

/-! ### Actions and what they find -/

/-- A run of an action that found some slots: they stood where it began, it went on behind them, and
it would have given the same wherever else it finds them. -/
structure Found (x : Read α) (r : Reader) (a : α) (r' : Reader) (slots : List Slot) : Prop where
  shows : r.Shows slots
  eq_skip : r' = r.skip slots.length
  again : ∀ s : Reader, s.order = r.order → s.pos = r.pos → s.Inside → s.Shows slots →
    x s = .ok a (s.skip slots.length)

/-- An action that succeeds only where it finds the template of what it gives, which then has a
property at that position. -/
structure Decodes (x : Read α) (P : ByteOrder → Nat → α → Prop) (T : α → Template) : Prop where
  found : ∀ {r a r'}, r.Inside → x r = .ok a r' →
    P r.order r.pos a ∧ Found x r a r' ((T a).slotsAt r.order r.pos)

theorem Found.inside {x : Read α} {a : α} (h : Found x r a r' p) (hr : r.Inside) : r'.Inside := by
  rw [h.eq_skip]
  exact hr.skip h.shows

theorem Found.pure (hr : r.Inside) (a : α) : Found (pure a) r a r [] :=
  ⟨.nil hr, rfl, fun _ _ _ _ _ => rfl⟩

theorem Found.bind {x : Read α} {f : α → Read β} {a : α} {b : β} (hx : Found x r a r₁ p)
    (hf : Found (f a) r₁ b r' q) : Found (x >>= f) r b r' (p ++ q) := by
  obtain ⟨hshows, rfl, hagain⟩ := hx
  obtain ⟨hshows', rfl, hagain'⟩ := hf
  refine ⟨hshows.append hshows', ?_, fun s ho hp hs h => ?_⟩
  · rw [Reader.skip_skip, List.length_append]
  · have hpos : (s.skip p.length).pos = (r.skip p.length).pos := by
      rw [Reader.skip, Reader.skip, hp]
    rw [bind_apply_of_ok (hagain s ho hp hs h.left), List.length_append, ← Reader.skip_skip]
    exact hagain' (s.skip p.length) ho hpos (hs.skip h.left) h.right

theorem Found.order_eq {x : Read α} {a : α} (h : Found x r a r' p) : r'.order = r.order := by
  rw [h.eq_skip]
  rfl

theorem Found.pos_eq {x : Read α} {a : α} (h : Found x r a r' p) :
    r'.pos = r.pos + p.length := by
  rw [h.eq_skip]
  rfl

/-- Templates that were found one behind the other. -/
theorem Found.append {x : Read α} {f : α → Read β} {a : α} {b : β} {S T : Template}
    (hx : Found x r a r₁ (S.slotsAt r.order r.pos))
    (hf : Found (f a) r₁ b r' (T.slotsAt r₁.order r₁.pos)) :
    Found (x >>= f) r b r' ((S ++ T).slotsAt r.order r.pos) := by
  rw [hx.order_eq, hx.pos_eq] at hf
  exact hx.bind hf

/-- An action and what is made of its result without reading on. -/
theorem Found.finish {x : Read α} {f : α → Read β} {a : α} {b : β} (hx : Found x r a r' p)
    (hf : ∀ s : Reader, s.order = r.order → f a s = .ok b s) : Found (x >>= f) r b r' p := by
  refine ⟨hx.shows, hx.eq_skip, fun s ho hp hs hshows => ?_⟩
  rw [bind_apply_of_ok (hx.again s ho hp hs hshows)]
  exact hf _ ho

/-- An action that looks at the order of bytes and the position first. -/
theorem Found.get {f : Reader → Read β} {b : β} (h : Found (f r) r b r' p)
    (hf : ∀ s : Reader, s.order = r.order → s.pos = r.pos → f s = f r) :
    Found (get >>= f) r b r' p := by
  refine ⟨h.shows, h.eq_skip, fun s ho hp hs hshows => ?_⟩
  rw [bind_apply_of_ok (get_eq s), hf s ho hp]
  exact h.again s ho hp hs hshows

/-! ### Bytes and numbers -/

theorem take_eq_ok_iff {n : Nat} {bytes : ByteArray} (hr : r.Inside) :
    take n r = .ok bytes r' ↔
      (bytes = r.data.extract r.pos (r.pos + n) ∧ r' = r.skip n) ∧ r.pos + n ≤ r.stop := by
  have hroom : r.remaining < n ↔ ¬r.pos + n ≤ r.stop := by
    have := hr.pos_le
    rw [Reader.remaining]
    omega
  unfold take
  rw [bind_apply_of_ok (get_eq r)]
  by_cases h : r.pos + n ≤ r.stop
  · rw [if_neg (fun hlt => hroom.1 hlt h)]
    constructor
    · intro htake
      cases htake
      exact ⟨⟨rfl, rfl⟩, h⟩
    · rintro ⟨⟨rfl, rfl⟩, -⟩
      rfl
  · rw [if_pos (hroom.2 h)]
    constructor
    · intro htake
      cases htake
    · intro htake
      exact absurd htake.2 h

theorem take_found {n : Nat} {bytes : ByteArray} (hr : r.Inside) (h : take n r = .ok bytes r') :
    bytes.data.toList.length = n ∧ Found (take n) r bytes r' (bytes.data.toList.map .byte) := by
  obtain ⟨⟨rfl, rfl⟩, hroom⟩ := (take_eq_ok_iff hr).1 h
  have hbytes : (r.data.extract r.pos (r.pos + n)).data.toList
      = (r.data.data.toList.drop r.pos).take n := by
    rw [Bytes.toList_extract, Nat.add_sub_cancel_left]
  have hlength : (r.data.extract r.pos (r.pos + n)).data.toList.length = n := by
    have := hr.stop_le
    rw [hbytes, List.length_take, List.length_drop, Bytes.length_toList]
    omega
  refine ⟨hlength, ⟨?_, ?_⟩, ?_, fun s _ hp hs hshows => ?_⟩
  · rwa [List.length_map, hlength]
  · intro i b hi
    rw [List.getElem?_map, Option.map_eq_some_iff] at hi
    obtain ⟨b', hb, ⟨⟩⟩ := hi
    have hlt : i < n := Nat.lt_of_lt_of_eq (List.getElem?_eq_some_iff.1 hb).1 hlength
    rwa [hbytes, List.getElem?_take_of_lt hlt, List.getElem?_drop] at hb
  · rw [List.length_map, hlength]
  · have hroom' := hshows.room
    have hsame := hshows.bytes_eq
    rw [List.length_map, hlength] at hroom' ⊢
    rw [hlength] at hsame
    refine (take_eq_ok_iff hs).2 ⟨⟨Bytes.ext ?_, rfl⟩, hroom'⟩
    rw [Bytes.toList_extract s.data, Nat.add_sub_cancel_left, hsame]

theorem align_found {n : Nat} (hr : r.Inside) (h : align n r = .ok () r') :
    Found (align n) r () r' ((padding n).slotsAt r.order r.pos) := by
  have hlength : ((padding n).slotsAt r.order r.pos).length = paddingTo n r.pos :=
    List.length_replicate
  unfold align at h ⊢
  rw [bind_apply_of_ok (get_eq r)] at h
  refine Found.get ?_ fun s _ hp => by rw [hp]
  obtain ⟨bytes, r₁, htake, ⟨⟩⟩ := bind_apply_eq_ok_iff.1 h
  obtain ⟨⟨-, rfl⟩, hroom⟩ := (take_eq_ok_iff hr).1 htake
  refine ⟨⟨?_, fun i b hi => ?_⟩, ?_, fun s _ hp hs hshows => ?_⟩
  · rwa [hlength]
  · cases List.eq_of_mem_replicate (List.mem_of_getElem? hi)
  · rw [hlength]
  · have hroom' := hshows.room
    rw [hlength] at hroom' ⊢
    exact bind_apply_of_ok ((take_eq_ok_iff hs).2 ⟨⟨rfl, rfl⟩, hroom'⟩)

/-- A number is read from its encoding alone. -/
theorem number_decodes (width : Nat) :
    Decodes (number width) (fun _ _ k => k < 256 ^ width)
      (fun k => padding width ++ Template.number width k) := by
  constructor
  intro r k r' hr h
  obtain ⟨_, r₁, halign, h⟩ := bind_apply_eq_ok_iff.1 h
  have hpad := align_found hr halign
  obtain ⟨bytes, r₂, htake, hdecode⟩ := bind_apply_eq_ok_iff.1 h
  obtain ⟨hlength, hbytes⟩ := take_found (hpad.inside hr) htake
  obtain ⟨rfl, rfl⟩ : r₂.order.decode bytes.data.toList = k ∧ r₂ = r' := by
    cases hdecode
    exact ⟨rfl, rfl⟩
  have hslots : bytes.data.toList.map .byte
      = (Template.number width (r₂.order.decode bytes.data.toList)).slotsAt r₁.order r₁.pos := by
    rw [Template.number, hbytes.order_eq]
    dsimp only
    rw [← hlength, ByteOrder.encode_decode]
  refine ⟨hlength ▸ ByteOrder.decode_lt _ _, hpad.append ?_⟩
  rw [← hslots]
  refine hbytes.finish fun s ho => ?_
  rw [hbytes.order_eq, ← ho]
  rfl

/-! ### Texts -/

theorem text_eq_ok_iff {bytes : ByteArray} {s : String} :
    Read.text bytes r = .ok s r' ↔ bytes.data.toList = Bytes.utf8 s ∧ r' = r := by
  unfold Read.text
  constructor
  · intro h
    cases hs : String.fromUTF8? bytes with
    | some t =>
      rw [hs] at h
      cases h
      exact ⟨by rw [Bytes.utf8, Bytes.toUTF8_of_fromUTF8? hs], rfl⟩
    | none =>
      rw [hs] at h
      cases h
  · rintro ⟨hbytes, rfl⟩
    rw [Bytes.fromUTF8?_of_toList hbytes]
    rfl

theorem terminated_bind_text (n : Nat) :
    (terminated n >>= Read.text) = take (n + 1) >>= fun bytes =>
      if bytes.get! n = 0 then Read.text (bytes.extract 0 n) else throw .notNullTerminated := by
  unfold terminated
  rw [bind_assoc]
  refine congrArg (take (n + 1) >>= ·) (funext fun bytes => ?_)
  by_cases hzero : bytes.get! n = 0
  · simp only [hzero, bne_self_eq_false, Bool.false_eq_true, if_false, if_true, pure_bind]
  · simp only [bne_iff_ne.2 hzero, hzero, if_true, if_false]
    rfl

/-- The bytes of a text are those that stand before the zero. -/
theorem terminated_found {n : Nat} {s : String} (hr : r.Inside)
    (h : (terminated n >>= Read.text) r = .ok s r') :
    s.toUTF8.size = n ∧
      Found (terminated n >>= Read.text) r s r'
        ((fixed (Bytes.utf8 s ++ [0])).slotsAt r.order r.pos) := by
  rw [terminated_bind_text] at h ⊢
  obtain ⟨bytes, r₁, htake, h⟩ := bind_apply_eq_ok_iff.1 h
  obtain ⟨hlength, hbytes⟩ := take_found hr htake
  have hn : n < bytes.data.toList.length := by omega
  split at h
  · next hzero =>
    obtain ⟨hs, rfl⟩ := text_eq_ok_iff.1 h
    rw [Bytes.toList_extract, List.drop_zero, Nat.sub_zero] at hs
    have hlist : bytes.data.toList = Bytes.utf8 s ++ [0] := by
      rw [← hs, ← hzero, Bytes.get!_eq hn, ← List.take_succ_eq_append_getElem hn, ← hlength,
        List.take_length]
    have hsize : s.toUTF8.size = n := by
      rw [← Bytes.length_utf8, ← hs, List.length_take, hlength]
      omega
    refine ⟨hsize, ?_⟩
    rw [hlist] at hbytes
    refine hbytes.finish fun t _ => ?_
    rw [if_pos hzero]
    refine text_eq_ok_iff.2 ⟨?_, rfl⟩
    rw [Bytes.toList_extract, List.drop_zero, Nat.sub_zero, hs]
  · cases h

/-- A text whose length has a width is read from its bytes alone. -/
theorem text_decodes (width : Nat) :
    Decodes (number width >>= fun n => terminated n >>= Read.text)
      (fun _ _ s => s.toUTF8.size < 256 ^ width)
      (fun s => padding width ++ Template.text width s) := by
  constructor
  intro r s r' hr h
  obtain ⟨n, r₁, hnumber, hbytes⟩ := bind_apply_eq_ok_iff.1 h
  obtain ⟨hlt, hlength⟩ := (number_decodes width).found hr hnumber
  obtain ⟨rfl, htext⟩ := terminated_found (hlength.inside hr) hbytes
  refine ⟨hlt, ?_⟩
  show Found _ r s r' ((padding width ++ (Template.number width s.toUTF8.size
    ++ fixed (Bytes.utf8 s ++ [0]))).slotsAt r.order r.pos)
  rw [← append_assoc]
  exact hlength.append htext

theorem objectPath_decodes :
    Decodes objectPath (fun _ _ p => p.text.toUTF8.size < 256 ^ 4)
      (fun p => padding 4 ++ Template.text 4 p.text) := by
  constructor
  intro r p r' hr h
  obtain ⟨s, r₁, hstring, h⟩ := bind_apply_eq_ok_iff.1 h
  obtain ⟨hlt, htext⟩ := (text_decodes 4).found hr hstring
  by_cases hvalid : ObjectPath.isValid s = true
  · have hpath : ObjectPath.ofString? s = some ⟨s, hvalid⟩ := dif_pos hvalid
    rw [hpath] at h
    cases h
    refine ⟨hlt, htext.finish fun t _ => ?_⟩
    rw [hpath]
    rfl
  · have hpath : ObjectPath.ofString? s = none := dif_neg hvalid
    rw [hpath] at h
    cases h

theorem signature_decodes :
    Decodes signature (fun _ _ _ => True) (fun s => padding 1 ++ Template.text 1 s.text) := by
  constructor
  intro r g r' hr h
  -- the text comes first, then what is made of it
  unfold signature at h ⊢
  simp only [← bind_assoc] at h ⊢
  rw [bind_assoc (number 1)] at h ⊢
  obtain ⟨s, r₁, htext, h⟩ := bind_apply_eq_ok_iff.1 h
  obtain ⟨-, hfound⟩ := (text_decodes 1).found hr htext
  cases hs : Signature.ofString s with
  | ok q =>
    rw [hs] at h
    cases h
    obtain rfl := Signature.text_of_ofString hs
    refine ⟨trivial, hfound.finish fun t _ => ?_⟩
    rw [hs]
    rfl
  | error e =>
    rw [hs] at h
    cases h

/-! ### Arrays -/

/-- What the elements of an array have, each at its position. -/
def Along (P : ByteOrder → Nat → α → Prop) (T : α → Template) (order : ByteOrder) :
    Nat → List α → Prop
  | _, [] => True
  | pos, a :: as => P order pos a ∧ Along P T order (pos + (T a).size order pos) as

/-- One template behind the other. -/
def sequence (T : α → Template) : List α → Template
  | [] => fixed []
  | a :: as => T a ++ sequence T as

/-- A run over a window that some slots fill, which would have given the same wherever else it finds
them. -/
structure Fills (x : Reader → Except Error (List α)) (r : Reader) (all : List α)
    (slots : List Slot) : Prop where
  shows : r.Shows slots
  stop_eq : r.stop = r.pos + slots.length
  again : ∀ s : Reader, s.order = r.order → s.pos = r.pos → s.stop = r.stop → s.Inside →
    s.Shows slots → x s = .ok all

section

variable {step : Read α} {fuel : Nat} {found all : List α}

theorem isEmpty_eq_true_iff : r.isEmpty = true ↔ r.pos = r.stop := by
  rw [Reader.isEmpty, beq_iff_eq]

theorem Fills.nil (hr : r.Inside) (h : r.isEmpty = true) :
    Fills (Reader.untilEmpty step fuel found) r found.reverse [] := by
  rw [isEmpty_eq_true_iff] at h
  refine ⟨.nil hr, h.symm, fun s _ hp hstop _ _ => ?_⟩
  rw [Reader.untilEmpty.eq_def]
  exact if_pos (isEmpty_eq_true_iff.2 (by rw [hp, hstop, h]))

theorem Fills.cons {a : α} (hne : ¬r.isEmpty = true) (hstep : Found step r a r₁ p)
    (hrest : Fills (Reader.untilEmpty step fuel (a :: found)) r₁ all q) :
    Fills (Reader.untilEmpty step (fuel + 1) found) r all (p ++ q) := by
  obtain ⟨hshows, rfl, hagain⟩ := hstep
  refine ⟨hshows.append hrest.shows, ?_, fun s ho hp hstop hs h => ?_⟩
  · rw [List.length_append, ← Nat.add_assoc]
    exact hrest.stop_eq
  · have hfull : ¬s.isEmpty = true := by
      rwa [isEmpty_eq_true_iff, hp, hstop, ← isEmpty_eq_true_iff]
    rw [Reader.untilEmpty, if_neg hfull, hagain s ho hp hs h.left]
    have hpos : (s.skip p.length).pos = (r.skip p.length).pos := congrArg (· + p.length) hp
    exact hrest.again (s.skip p.length) ho hpos hstop (hs.skip h.left) h.right

/-- The number of bytes left is the same wherever the slots are found. -/
theorem Fills.toAll (h : Fills (Reader.untilEmpty step r.remaining []) r all p) :
    Fills (Reader.all step) r all p := by
  refine ⟨h.shows, h.stop_eq, fun s ho hp hstop hs hshows => ?_⟩
  have hfuel : s.remaining = r.remaining := by
    rw [Reader.remaining, Reader.remaining, hp, hstop]
  rw [Reader.all, hfuel]
  exact h.again s ho hp hstop hs hshows

/-- The values that a step reads until a window is empty fill that window. -/
theorem untilEmpty_fills {P : ByteOrder → Nat → α → Prop} {T : α → Template}
    (hstep : Decodes step P T) (hr : r.Inside)
    (h : Reader.untilEmpty step fuel found r = .ok all) :
    ∃ as, all = found.reverse ++ as ∧ Along P T r.order r.pos as ∧
      Fills (Reader.untilEmpty step fuel found) r all ((sequence T as).slotsAt r.order r.pos) := by
  induction fuel generalizing found r with
  | zero =>
    by_cases hempty : r.isEmpty = true
    · rw [Reader.untilEmpty, if_pos hempty] at h
      cases h
      exact ⟨[], (List.append_nil _).symm, trivial, Fills.nil hr hempty⟩
    · rw [Reader.untilEmpty, if_neg hempty] at h
      cases h
  | succ fuel ih =>
    by_cases hempty : r.isEmpty = true
    · rw [Reader.untilEmpty, if_pos hempty] at h
      cases h
      exact ⟨[], (List.append_nil _).symm, trivial, Fills.nil hr hempty⟩
    · rw [Reader.untilEmpty, if_neg hempty] at h
      cases hread : step r with
      | error e r₁ =>
        rw [hread] at h
        cases h
      | ok a r₁ =>
        rw [hread] at h
        obtain ⟨ha, hfound⟩ := hstep.found hr hread
        obtain ⟨as, rfl, halong, hfills⟩ := ih (hfound.inside hr) h
        have hcons := Fills.cons hempty hfound hfills
        rw [hfound.order_eq, hfound.pos_eq] at halong hcons
        refine ⟨a :: as, ?_, ⟨ha, halong⟩, hcons⟩
        rw [List.reverse_cons, List.append_assoc, List.singleton_append]

end

/-- What is read of an array before its elements. -/
def arrayHead (elementAlign : Nat) : Read Nat := do
  let n ← number 4
  align elementAlign
  return n

/-- An array is passed over once its length is known. -/
theorem array_eq_ok_iff {elementAlign : Nat} {inner : Reader} (hr : r.Inside) :
    array elementAlign r = .ok inner r' ↔
      ∃ n r₁, arrayHead elementAlign r = .ok n r₁ ∧ n ≤ maxArrayLength ∧ r₁.pos + n ≤ r₁.stop ∧
        inner = { r₁ with stop := r₁.pos + n } ∧ r' = r₁.skip n := by
  unfold array arrayHead
  constructor
  · intro h
    obtain ⟨n, r₁, hnumber, h⟩ := bind_apply_eq_ok_iff.1 h
    have hr₁ := ((number_decodes 4).found hr hnumber).2.inside hr
    by_cases hn : maxArrayLength < n
    · rw [if_pos hn] at h
      cases h
    · rw [if_neg hn] at h
      obtain ⟨_, r₂, halign, h⟩ := bind_apply_eq_ok_iff.1 h
      have hr₂ := (align_found hr₁ halign).inside hr₁
      rw [bind_apply_of_ok (get_eq r₂)] at h
      obtain ⟨_, r₃, htake, h⟩ := bind_apply_eq_ok_iff.1 h
      obtain ⟨⟨-, rfl⟩, hroom⟩ := (take_eq_ok_iff hr₂).1 htake
      cases h
      refine ⟨n, r₂, ?_, Nat.not_lt.1 hn, hroom, rfl, rfl⟩
      rw [bind_apply_of_ok hnumber, bind_apply_of_ok halign]
      rfl
  · rintro ⟨n, r₂, hhead, hn, hroom, rfl, rfl⟩
    obtain ⟨k, r₁, hnumber, hhead⟩ := bind_apply_eq_ok_iff.1 hhead
    obtain ⟨_, r₂', halign, ⟨⟩⟩ := bind_apply_eq_ok_iff.1 hhead
    have hr₁ := ((number_decodes 4).found hr hnumber).2.inside hr
    have hr₂ := (align_found hr₁ halign).inside hr₁
    refine (bind_apply_of_ok hnumber).trans ?_
    refine (congrFun (if_neg (Nat.not_lt.2 hn)) _).trans ?_
    refine (bind_apply_of_ok halign).trans ?_
    refine (bind_apply_of_ok (get_eq r₂)).trans ?_
    exact bind_apply_of_ok ((take_eq_ok_iff hr₂).2 ⟨⟨rfl, rfl⟩, hroom⟩)

theorem arrayHead_decodes (elementAlign : Nat) :
    Decodes (arrayHead elementAlign) (fun _ _ _ => True)
      (fun n => padding 4 ++ Template.number 4 n ++ padding elementAlign) := by
  constructor
  intro r n r' hr h
  obtain ⟨k, r₁, hnumber, h⟩ := bind_apply_eq_ok_iff.1 h
  obtain ⟨_, r₂, halign, ⟨⟩⟩ := bind_apply_eq_ok_iff.1 h
  obtain ⟨-, hlength⟩ := (number_decodes 4).found hr hnumber
  have hpad := align_found (hlength.inside hr) halign
  exact ⟨trivial, hlength.append (hpad.finish fun _ _ => rfl)⟩

/-- An array is the slots before its elements, and those that its elements fill. -/
theorem arrayOf_found {step : Read α} {elementAlign n : Nat} {found : List α}
    (hhead : Found (arrayHead elementAlign) r n r₁ p) (hn : n ≤ maxArrayLength)
    (hroom : r₁.pos + n ≤ r₁.stop)
    (hfills : Fills (Reader.all step) { r₁ with stop := r₁.pos + n } found q) :
    Found (arrayOf elementAlign step) r found (r₁.skip n) (p ++ q) := by
  obtain ⟨hshows, rfl, hagain⟩ := hhead
  have hlength : n = q.length := Nat.add_left_cancel hfills.stop_eq
  refine ⟨hshows.append ⟨hlength ▸ hroom, hfills.shows.bytes⟩, ?_, fun s ho hp hs h => ?_⟩
  · rw [Reader.skip_skip, List.length_append, hlength]
  · have hpos : (s.skip p.length).pos = (r.skip p.length).pos := congrArg (· + p.length) hp
    have hroom' : (s.skip p.length).pos + n ≤ (s.skip p.length).stop := hlength ▸ h.right.room
    have harray := (array_eq_ok_iff hs).2
      ⟨n, s.skip p.length, hagain s ho hp hs h.left, hn, hroom', rfl, rfl⟩
    have hall := hfills.again { s.skip p.length with stop := (s.skip p.length).pos + n } ho hpos
      (congrArg (· + n) hpos) ⟨Nat.le_add_right _ _, Nat.le_trans hroom' hs.stop_le⟩
      ⟨Nat.le_of_eq (by rw [hlength]), h.right.bytes⟩
    unfold arrayOf
    rw [bind_apply_of_ok harray, hall, Reader.skip_skip, List.length_append, hlength]
    rfl

/-- An array is read from its length and the bytes of its elements alone. -/
theorem arrayOf_decodes {step : Read α} {P : ByteOrder → Nat → α → Prop} {T : α → Template}
    (elementAlign : Nat) (hstep : Decodes step P T) :
    Decodes (arrayOf elementAlign step)
      (fun order pos as =>
        (sequence T as).size order (Layout.firstElement elementAlign pos) ≤ maxArrayLength ∧
          Along P T order (Layout.firstElement elementAlign pos) as)
      (fun as => padding 4 ++ Template.array elementAlign (sequence T as)) := by
  constructor
  intro r found r' hr h
  obtain ⟨inner, r₁, harray, h⟩ := bind_apply_eq_ok_iff.1 h
  obtain ⟨n, r₂, hhead, hn, hroom, rfl, rfl⟩ := (array_eq_ok_iff hr).1 harray
  obtain ⟨-, hfound⟩ := (arrayHead_decodes elementAlign).found hr hhead
  have hinside : ({ r₂ with stop := r₂.pos + n } : Reader).Inside :=
    ⟨Nat.le_add_right _ _, Nat.le_trans hroom (hfound.inside hr).stop_le⟩
  cases hall : Reader.all step { r₂ with stop := r₂.pos + n } with
  | error e =>
    rw [hall] at h
    cases h
  | ok as =>
    rw [hall] at h
    cases h
    obtain ⟨_, rfl, halong, hfills⟩ := untilEmpty_fills hstep hinside hall
    have hrest := arrayOf_found hfound hn hroom hfills.toAll
    dsimp only at halong hfills
    have hstart : r₂.pos = Layout.firstElement elementAlign r.pos := by
      rw [hfound.pos_eq]
      exact size_array_head ..
    have hlength : ((sequence T found).slotsAt r₂.order r₂.pos).length = n :=
      (Nat.add_left_cancel hfills.stop_eq).symm
    have hsize : (sequence T found).size r.order (Layout.firstElement elementAlign r.pos) = n := by
      rw [← hlength, hfound.order_eq, hstart]
      rfl
    refine ⟨⟨hsize ▸ hn, ?_⟩, ?_⟩
    · rwa [hfound.order_eq, hstart] at halong
    · rw [hfound.order_eq, hstart] at hrest
      rw [slotsAt_padded_array, hsize, slotsAt_append, size_array_head]
      exact hrest

end Read

end DBus
