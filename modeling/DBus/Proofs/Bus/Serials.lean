import Mathlib.Data.List.Nodup
import DBus.Proofs.Bus.Runs

/-!
# Serials

All that is sent on a bus takes its serial from one counter: calls and replies where they are
numbered, signals where they are emitted. Whoever is served meanwhile, the serials of a run are the
values of that counter one after the other. Zero is left out, and when all others have been given
out they come again in the same order.
-/

namespace DBus

namespace Serial

/-- How many serials there are. -/
def total : Nat := UInt32.size - 1

/-- The number of the serial that comes `k` serials after the one that follows a number. -/
def numberAt (last k : Nat) : Nat :=
  (last + k) % total + 1

/-- After the largest number comes one, and after any other the next one. -/
theorem number_after (last : UInt32) : (after last).number.toNat = numberAt last.toNat 0 := by
  have hlt : last.toNat < 4294967296 := last.toNat_lt
  have hsucc : (last + 1).toNat = (last.toNat + 1) % 4294967296 := UInt32.toNat_add last 1
  have hzero : last + 1 = 0 ↔ (last.toNat + 1) % 4294967296 = 0 := by
    rw [← hsucc, ← UInt32.toNat_inj]
    rfl
  show _ = (last.toNat + 0) % 4294967295 + 1
  rw [after]
  split
  · next hne =>
    rw [Ne, hzero] at hne
    rw [hsucc]
    omega
  · next heq =>
    rw [Ne, hzero] at heq
    show 1 = _
    omega

theorem numberAt_numberAt (last k : Nat) :
    numberAt (numberAt last 0) k = numberAt last (k + 1) := by
  simp only [numberAt, Nat.add_zero, Nat.add_assoc, Nat.mod_add_mod, Nat.add_comm 1 k]

/-- The numbers of as many serials as there are, or fewer, are all different. -/
theorem nodup_map_numberAt (last i n : Nat) (hn : n ≤ total) :
    ((List.range' i n).map (numberAt last)).Nodup := by
  refine List.Nodup.map_on (fun x hx y hy heq => ?_) List.nodup_range'
  rw [List.mem_range'_1] at hx hy
  have hmod : (last + x) % 4294967295 = (last + y) % 4294967295 := Nat.succ.inj heq
  have hsize : n ≤ 4294967295 := hn
  omega

end Serial

open Serial (numberAt)

namespace Bus

variable {H : Type}

/-- The serial that a step assigns: to a call, a reply or a signal. -/
def assigning (b : Bus H) : Step H → List Serial
  | .number | .emit _ => [b.nextSerial.1]
  | _ => []

/-- The serials that are assigned in some steps, in the order of the steps. -/
def assigned : Bus H → List (Step H) → List Serial
  | _, [] => []
  | b, s :: rest => assigning b s ++ assigned (b.next s) rest

theorem assigned_append (b : Bus H) (first second : List (Step H)) :
    b.assigned (first ++ second) = b.assigned first ++ (b.after first).assigned second := by
  induction first generalizing b with
  | nil => rfl
  | cons s rest ih => simp [assigned, ih]

/-- The counter stands where the last serial has left it. -/
theorem assigning_cases (b : Bus H) (s : Step H) :
    (b.assigning s = [] ∧ (b.next s).lastSerial = b.lastSerial) ∨
      (b.assigning s = [b.nextSerial.1] ∧ (b.next s).lastSerial = b.nextSerial.1.number) := by
  cases s with
  | number | emit => exact .inr ⟨rfl, rfl⟩
  | register | unregister | lend | subscribe | receive | drop => exact .inl ⟨rfl, rfl⟩
  | giveBack object =>
    refine .inl ⟨rfl, ?_⟩
    show (b.giveBack object).lastSerial = b.lastSerial
    unfold giveBack
    split <;> rfl

/-- The serials of some steps follow one another from where the counter stands. -/
theorem numbers_assigned (b : Bus H) (steps : List (Step H)) :
    (b.assigned steps).map (·.number.toNat) =
      (List.range (b.assigned steps).length).map (numberAt b.lastSerial.toNat) := by
  induction steps generalizing b with
  | nil => rfl
  | cons s rest ih =>
    rw [assigned]
    obtain ⟨hs, hlast⟩ | ⟨hs, hlast⟩ := b.assigning_cases s
    · rw [hs, List.nil_append, ih, hlast]
    · have hfirst : b.nextSerial.1.number.toNat = numberAt b.lastSerial.toNat 0 :=
        Serial.number_after _
      have hrest : (b.next s).lastSerial.toNat = numberAt b.lastSerial.toNat 0 := by
        rw [hlast, hfirst]
      rw [hs, List.singleton_append, List.map_cons, List.length_cons, List.range_succ_eq_map,
        List.map_cons, List.map_map, ih, hrest, hfirst]
      congr 1
      exact List.map_congr_left fun k _ => Serial.numberAt_numberAt _ k

/-- The serials of some steps, as the values of a counter. -/
structure Counted (b : Bus H) (steps : List (Step H)) : Prop where
  /-- They are successive values of the counter, -/
  successive : (b.assigned steps).map (·.number.toNat) =
    (List.range (b.assigned steps).length).map (numberAt b.lastSerial.toNat)
  /-- none of them is zero, -/
  nonzero : ∀ serial ∈ b.assigned steps, serial.number ≠ 0
  /-- and as many of them as there are serials, wherever one begins, are all different. -/
  distinct : ∀ i, (((b.assigned steps).drop i).take Serial.total).Nodup

theorem counted (b : Bus H) (steps : List (Step H)) : Counted b steps where
  successive := b.numbers_assigned steps
  nonzero serial _ := serial.nonzero
  distinct i := by
    refine .of_map (·.number.toNat) ?_
    rw [List.map_take, List.map_drop, numbers_assigned, ← List.map_drop, ← List.map_take,
      List.take_drop, List.take_range, List.range_eq_range', List.drop_range', Nat.mul_one]
    exact Serial.nodup_map_numberAt _ _ _ (by omega)

end Bus

end DBus
