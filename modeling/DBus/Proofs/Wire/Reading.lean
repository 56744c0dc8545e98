import DBus.Proofs.Signature.Reading
import DBus.Proofs.Steps
import DBus.Proofs.Wire.Layout

/-!
# Reading layouts

What an action reads from a window that begins with a layout, whatever stands behind it. Actions put
one after the other read layouts put one behind the other, up to the first action that fails.
-/

namespace DBus

namespace Reader

/-- The bytes left in a window. -/
structure Holds (r : Reader) (bs : List UInt8) : Prop where
  stop_eq : r.stop = r.pos + bs.length
  bytes_eq : (r.data.data.toList.drop r.pos).take bs.length = bs

/-- A window without its first bytes. -/
def skip (r : Reader) (n : Nat) : Reader := { r with pos := r.pos + n }

section

variable {r : Reader} {xs ys : List UInt8}

theorem Holds.skip (h : r.Holds (xs ++ ys)) : (r.skip xs.length).Holds ys := by
  refine ⟨?_, ?_⟩
  · rw [Reader.skip, h.stop_eq, List.length_append, Nat.add_assoc]
  · have hdrop := congrArg (List.drop xs.length) h.bytes_eq
    rw [List.drop_take, List.drop_drop, List.drop_left, List.length_append,
      Nat.add_sub_cancel_left] at hdrop
    exact hdrop

/-- The window that ends where the first bytes of a window end. -/
theorem Holds.left (h : r.Holds (xs ++ ys)) : { r with stop := r.pos + xs.length }.Holds xs := by
  refine ⟨rfl, ?_⟩
  have htake := congrArg (List.take xs.length) h.bytes_eq
  rw [List.take_take, List.take_left, List.length_append, Nat.min_eq_left (by omega)] at htake
  exact htake

theorem skip_skip (m n : Nat) : (r.skip m).skip n = r.skip (m + n) := by
  rw [skip, skip, skip, Nat.add_assoc]

theorem Holds.remaining (h : r.Holds xs) : r.remaining = xs.length := by
  rw [Reader.remaining, h.stop_eq, Nat.add_sub_cancel_left]

theorem isEmpty_iff (h : r.Holds xs) : r.isEmpty = true ↔ xs = [] := by
  rw [isEmpty, beq_iff_eq, h.stop_eq, ← List.length_eq_zero_iff]
  omega

end

end Reader

namespace Read

open Layout

variable {α β : Type}

theorem get_eq (r : Reader) : (get : Read Reader) r = .ok r r := rfl

theorem take_ok {r : Reader} {xs ys : List UInt8} (h : r.Holds (xs ++ ys)) :
    take xs.length r = .ok xs.toByteArray (r.skip xs.length) := by
  have hroom : ¬r.remaining < xs.length := by
    rw [h.remaining, List.length_append]
    omega
  have hbytes : r.data.extract r.pos (r.pos + xs.length) = xs.toByteArray := by
    refine Bytes.ext ?_
    rw [Bytes.toList_extract, Nat.add_sub_cancel_left, List.toList_data_toByteArray]
    exact h.left.bytes_eq
  unfold take
  rw [bind_apply_of_ok (get_eq r), if_neg hroom]
  show EStateM.Result.ok _ _ = _
  rw [hbytes]
  rfl

/-- What an action makes of a layout at a position. -/
def Reads (order : ByteOrder) (pos : Nat) (action : Read α) (l : Layout) (result : Except Error α) :
    Prop :=
  ∀ (r : Reader) (rest : List UInt8), r.order = order → r.pos = pos →
    r.Holds (l.bytesAt order pos ++ rest) →
    match result with
    | .ok a => action r = .ok a (r.skip (l.size order pos))
    | .error e => ∃ r', action r = .error e r'

section

variable {order : ByteOrder} {pos : Nat}

theorem Reads.pure (a : α) : Reads order pos (pure a) (fixed []) (.ok a) := by
  intro r rest _ _ _
  rfl

theorem Reads.throw (l : Layout) (e : Error) :
    Reads order pos (throw e : Read α) l (.error e) := by
  intro r rest _ _ _
  exact ⟨r, rfl⟩

theorem Reads.bind {x : Read α} {f : α → Read β} {l m : Layout} {result : Except Error α}
    {next : α → Except Error β} (hx : Reads order pos x l result)
    (hf : ∀ a, result = .ok a → Reads order (pos + l.size order pos) (f a) m (next a)) :
    Reads order pos (x >>= f) (l ++ m) (result >>= next) := by
  intro r rest ho hp h
  rw [bytesAt_append, List.append_assoc] at h
  cases result with
  | error e =>
    obtain ⟨r', hr'⟩ := hx r _ ho hp h
    exact ⟨r', bind_apply_of_error hr'⟩
  | ok a =>
    have hfirst : x r = .ok a (r.skip (l.size order pos)) := hx r _ ho hp h
    have hpos : (r.skip (l.size order pos)).pos = pos + l.size order pos := by
      rw [Reader.skip, hp]
    have hsecond := hf a rfl (r.skip (l.size order pos)) rest ho hpos h.skip
    rw [ok_bind, bind_apply_of_ok hfirst]
    rw [Reader.skip_skip, ← size_append] at hsecond
    exact hsecond

/-- An action that succeeds, and what comes after it. -/
theorem Reads.andThen {x : Read α} {f : α → Read β} {l m : Layout} {a : α}
    {result : Except Error β} (hx : Reads order pos x l (.ok a))
    (hf : Reads order (pos + l.size order pos) (f a) m result) :
    Reads order pos (x >>= f) (l ++ m) result := by
  show Reads order pos (x >>= f) (l ++ m) (Except.ok a >>= fun _ => result)
  refine hx.bind fun b hb => ?_
  cases hb
  exact hf

theorem Reads.map {x : Read α} {l : Layout} {result : Except Error α} (f : α → β)
    (hx : Reads order pos x l result) :
    Reads order pos (x >>= fun a => Pure.pure (f a)) l (result.map f) := by
  have h : Reads order pos (x >>= fun a => Pure.pure (f a)) (l ++ fixed [])
      (result >>= fun a => .ok (f a)) := hx.bind fun a _ => Reads.pure (f a)
  rw [append_nil] at h
  cases result <;> exact h

/-! ### Numbers and texts -/

/-- Takes the bytes of a layout. -/
theorem Reads.take {l : Layout} {n : Nat} (hn : l.size order pos = n) :
    Reads order pos (take n) l (.ok (l.bytesAt order pos).toByteArray) := by
  intro r rest _ _ h
  rw [← hn]
  exact take_ok h

theorem Reads.align (n : Nat) : Reads order pos (align n) (padding n) (.ok ()) := by
  intro r rest ho hp h
  have htake := (Reads.take (l := padding n) (size_padding order pos n)).map
    (fun _ => ()) r rest ho hp h
  unfold Read.align
  rw [bind_apply_of_ok (get_eq r), hp]
  exact htake

/-- The bytes of a number that fits its width. -/
theorem Reads.encoded {width n : Nat} (h : n < 256 ^ width) :
    Reads order pos (Read.take width >>= fun bytes => get >>= fun r : Reader =>
      Pure.pure (r.order.decode bytes.data.toList)) (encoded width n) (.ok n) := by
  intro r rest ho hp hr
  have htake := Reads.take (size_encoded order pos width n) r rest ho hp hr
  rw [bind_apply_of_ok htake, bind_apply_of_ok (get_eq _), List.toList_data_toByteArray]
  have hdecode : (r.skip ((Layout.encoded width n).size order pos)).order.decode
      ((Layout.encoded width n).bytesAt order pos) = n := by
    rw [Reader.skip, ho]
    exact ByteOrder.decode_encode order width n h
  rw [hdecode]
  rfl

theorem Reads.number {width n : Nat} (h : n < 256 ^ width) :
    Reads order pos (Read.number width) (.number width n) (.ok n) :=
  (Reads.align width).andThen (Reads.encoded h)

/-- The bytes of a text and the zero behind them. -/
theorem Reads.terminated (s : String) :
    Reads order pos (Read.terminated s.toUTF8.size >>= Read.text)
      (fixed (Bytes.utf8 s ++ [0])) (.ok s) := by
  intro r rest ho hp h
  have hsize : (fixed (Bytes.utf8 s ++ [0])).size order pos = s.toUTF8.size + 1 := by
    rw [size_fixed, List.length_append, Bytes.length_utf8, List.length_singleton]
  have htake := Reads.take hsize r rest ho hp h
  have hlen : s.toUTF8.size < (Bytes.utf8 s ++ [0]).toByteArray.data.toList.length := by
    rw [List.toList_data_toByteArray]
    exact Nat.lt_of_lt_of_eq (Nat.lt_succ_self _) hsize.symm
  have hzero : (Bytes.utf8 s ++ [0]).toByteArray.get! s.toUTF8.size = 0 := by
    rw [Bytes.get!_eq hlen]
    simp only [List.toList_data_toByteArray]
    exact List.getElem_concat_length (Bytes.length_utf8 s).symm _
  have hextract : ((Bytes.utf8 s ++ [0]).toByteArray.extract 0 s.toUTF8.size).data.toList
      = Bytes.utf8 s := by
    rw [Bytes.toList_extract, List.toList_data_toByteArray, List.drop_zero, Nat.sub_zero,
      ← Bytes.length_utf8, List.take_left]
  have hterminated : Read.terminated s.toUTF8.size r
      = .ok ((Bytes.utf8 s ++ [0]).toByteArray.extract 0 s.toUTF8.size)
        (r.skip ((fixed (Bytes.utf8 s ++ [0])).size order pos)) := by
    unfold Read.terminated
    rw [bind_apply_of_ok htake]
    refine (congrFun (if_neg ?_) _).trans rfl
    rw [fixed, hzero]
    decide
  rw [bind_apply_of_ok hterminated, Read.text, Bytes.fromUTF8?_of_toList hextract]
  rfl

/-- A text whose length fits the width of its number. -/
theorem Reads.text {width : Nat} {s : String} (h : s.toUTF8.size < 256 ^ width) :
    Reads order pos (Read.number width >>= fun n => Read.terminated n >>= Read.text)
      (.text width s) (.ok s) :=
  (Reads.number h).andThen (Reads.terminated s)

/-- A text and what is made of it. -/
theorem Reads.text_andThen {width : Nat} {s : String} {f : String → Read α} {m : Layout}
    {result : Except Error α} (h : s.toUTF8.size < 256 ^ width)
    (hf : Reads order (pos + (Layout.text width s).size order pos) (f s) m result) :
    Reads order pos (Read.number width >>= fun n => Read.terminated n >>= fun bytes =>
      Read.text bytes >>= f) (.text width s ++ m) result := by
  have htext := (Reads.text h).andThen hf
  simpa only [bind_assoc] using htext

/-! ### Arrays -/

/-- An array is read by a window that holds its elements. -/
theorem array_ok {align : Nat} {elements : Layout} {r : Reader} {rest : List UInt8}
    (ho : r.order = order) (hp : r.pos = pos)
    (hle : elements.size order (firstElement align pos) ≤ maxArrayLength)
    (h : r.Holds ((Layout.array align elements).bytesAt order pos ++ rest)) :
    ∃ inner,
      Read.array align r = .ok inner (r.skip ((Layout.array align elements).size order pos)) ∧
      inner.order = order ∧ inner.pos = firstElement align pos ∧
        inner.Holds (elements.bytesAt order (firstElement align pos)) := by
  let n := elements.size order (firstElement align pos)
  have hn : n < 256 ^ 4 := Nat.lt_of_le_of_lt hle (by decide)
  let head := Layout.number 4 n ++ padding align
  rw [bytesAt_array, List.append_assoc] at h
  have hnumber : Read.number 4 r = .ok n (r.skip ((Layout.number 4 n).size order pos)) :=
    Reads.number hn r _ ho hp (by rwa [bytesAt_append, List.append_assoc] at h)
  have halign : Read.align align (r.skip ((Layout.number 4 n).size order pos))
      = .ok () (r.skip (head.size order pos)) := by
    have hskip : Reads order (pos + (Layout.number 4 n).size order pos) (Read.align align)
        (padding align) (.ok ()) := Reads.align align
    have hskip := hskip (r.skip ((Layout.number 4 n).size order pos)) _ ho
      (by rw [Reader.skip, hp]) (by
        rw [bytesAt_append, List.append_assoc] at h
        exact h.skip)
    rwa [Reader.skip_skip, ← size_append] at hskip
  have hinner : (r.skip (head.size order pos)).Holds
      (elements.bytesAt order (firstElement align pos) ++ rest) := h.skip
  have htake := take_ok hinner
  have hstart : (r.skip (head.size order pos)).pos = firstElement align pos := by
    rw [← size_array_head order pos align n, Reader.skip, hp]
  refine ⟨{ r.skip (head.size order pos) with stop := (r.skip (head.size order pos)).pos + n },
    ?_, ho, hstart, hinner.left⟩
  rw [size_array, ← Reader.skip_skip]
  refine (bind_apply_of_ok hnumber).trans ?_
  refine (congrFun (if_neg (Nat.not_lt.2 hle)) _).trans ?_
  refine (bind_apply_of_ok halign).trans ?_
  refine (bind_apply_of_ok (get_eq _)).trans ?_
  refine (bind_apply_of_ok htake).trans ?_
  rfl

/-- What a step makes of a layout that fills a window, if it is repeated until the window is
empty. -/
def ReadsAll (order : ByteOrder) (pos : Nat) (step : Read α) (l : Layout)
    (result : Except Error (List α)) : Prop :=
  ∀ (r : Reader) (found : List α) (fuel : Nat), r.order = order → r.pos = pos →
    r.Holds (l.bytesAt order pos) → l.size order pos ≤ fuel →
    Reader.untilEmpty step fuel found r = result.map (found.reverse ++ ·)

theorem ReadsAll.nil {step : Read α} : ReadsAll order pos step (fixed []) (.ok []) := by
  intro r found fuel _ _ h _
  rw [Reader.untilEmpty.eq_def, Except.map, List.append_nil]
  exact if_pos ((Reader.isEmpty_iff h).2 rfl)

theorem ReadsAll.cons {step : Read α} {l m : Layout} {result : Except Error α}
    {results : Except Error (List α)} (hstep : Reads order pos step l result)
    (hpos : 0 < l.size order pos)
    (hall : ReadsAll order (pos + l.size order pos) step m results) :
    ReadsAll order pos step (l ++ m) (result >>= fun a => results.map (a :: ·)) := by
  intro r found fuel ho hp h hfuel
  rw [bytesAt_append] at h
  rw [size_append] at hfuel
  have hne : ¬r.isEmpty = true := by
    rw [Reader.isEmpty_iff h, List.append_eq_nil_iff, ← List.length_eq_zero_iff]
    exact fun hnil => Nat.ne_of_gt hpos hnil.1
  obtain ⟨fuel, rfl⟩ : ∃ k, fuel = k + 1 := ⟨fuel - 1, by omega⟩
  have hr := hstep r _ ho hp h
  rw [Reader.untilEmpty, if_neg hne]
  cases result with
  | error e =>
    obtain ⟨r', hr'⟩ := hr
    rw [hr']
    rfl
  | ok a =>
    have hskip : (r.skip (l.size order pos)).pos = pos + l.size order pos := by
      rw [Reader.skip, hp]
    have hrest := hall (r.skip (l.size order pos)) (a :: found) fuel ho hskip h.skip (by omega)
    rw [show step r = _ from hr]
    refine hrest.trans ?_
    cases results with
    | error e => rfl
    | ok as => simp [Except.map]

theorem Reads.arrayOf {step : Read α} {align : Nat} {elements : Layout}
    {result : Except Error (List α)}
    (hle : elements.size order (firstElement align pos) ≤ maxArrayLength)
    (hall : ReadsAll order (firstElement align pos) step elements result) :
    Reads order pos (Read.arrayOf align step) (.array align elements) result := by
  intro r rest ho hp h
  obtain ⟨inner, harray, hio, hip, hinner⟩ := array_ok ho hp hle h
  have hread : inner.all step = result := by
    have hfuel := Nat.le_of_eq hinner.remaining.symm
    refine (hall inner [] inner.remaining hio hip hinner hfuel).trans ?_
    cases result <;> rfl
  unfold Read.arrayOf
  rw [bind_apply_of_ok harray, hread]
  cases result with
  | ok found => rfl
  | error e => exact ⟨_, rfl⟩

end

end Read

end DBus
