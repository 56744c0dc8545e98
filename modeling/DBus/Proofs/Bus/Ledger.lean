import Mathlib.Data.List.Chain
import Mathlib.Logic.Function.Basic
import DBus.Proofs.Bus.Runs
import DBus.Proofs.Object.Properties

/-!
# The ledger of a bus

Each object that is put on a bus gets a number, and the ledger says which of the numbers hold a
path, which are serving a call, and what their objects have been so far. It is kept from the steps
of a run alone. The bus has no such numbers: of an object that serves a call it remembers only that
the place is taken, and when the object comes back nothing but its path tells where it belongs.
Still its places are always those of the ledger, because calls end in the reverse order of their
beginning and a number that has lost its path never gets it again.
-/

namespace DBus

/-- What an object may be after it has served a call to its path, whatever it hears meanwhile. -/
def Object.Becomes {H : Type} [InterfaceHandler H] (before after : Object H) : Prop :=
  ∃ m : Message, m.path? = some before.path ∧
    ∃ talk reply, (before.handle m).Ends talk (reply, after)

theorem Object.Becomes.path_eq {H : Type} [InterfaceHandler H] {before after : Object H}
    (h : before.Becomes after) : after.path = before.path := by
  obtain ⟨m, -, talk, reply, hends⟩ := h
  exact path_of_ends_handle hends

namespace Bus

variable {H : Type}

/-! ### The places of a bus -/

section

variable {b : Bus H} {path q : ObjectPath}

theorem placeOf_vacate : (b.vacate path).placeOf q = if q = path then none else b.placeOf q := by
  show List.lookup q (b.places.filter _) = if q = path then none else List.lookup q b.places
  induction b.places with
  | nil => simp
  | cons entry rest ih =>
    obtain ⟨p, place⟩ := entry
    by_cases hp : p = path <;> by_cases hq : q = p <;> grind

theorem placeOf_occupy {place : Place H} :
    (b.occupy path place).placeOf q = if q = path then some place else b.placeOf q := by
  show List.lookup q ((path, place) :: (b.vacate path).places) = _
  rw [List.lookup_cons]
  by_cases hq : q = path
  · simp [hq]
  · rw [beq_eq_false_iff_ne.2 hq, if_neg hq]
    exact placeOf_vacate.trans (if_neg hq)

theorem idleAt_eq_some_iff {object : Object H} :
    b.idleAt path = some object ↔ b.placeOf path = some (.idle object) := by
  rw [idleAt]
  cases b.placeOf path with
  | none => simp
  | some place => cases place <;> simp

theorem giveBack_of_serving {object : Object H} (h : b.placeOf object.path = some .serving) :
    b.giveBack object = b.occupy object.path (.idle object) := by
  rw [giveBack, h]

theorem giveBack_of_not_serving {object : Object H} (h : b.placeOf object.path ≠ some .serving) :
    b.giveBack object = b := by
  rw [giveBack]
  split
  · contradiction
  · rfl

end

/-! ### The ledger -/

/-- Whether a step neither begins nor ends the serving of a call. -/
def Step.Aside : Step H → Prop
  | .lend _ | .giveBack _ => False
  | _ => True

/-- What is known of the objects that have been put on a bus. -/
structure Ledger (H : Type) where
  /-- How many there have been; this is the number of the next one. -/
  count : Nat := 0
  /-- The number that holds a path. -/
  holder : ObjectPath → Option Nat := fun _ => none
  /-- The numbers that are serving a call, the innermost call first. -/
  chain : List Nat := []
  /-- What the object with a number has been, the newest first: once when it was put on the bus, and
  once after each call that it has served. -/
  states : Nat → List (Object H) := fun _ => []

namespace Ledger

/-- The ledger after a step. -/
def next (l : Ledger H) : Step H → Ledger H
  | .register object =>
    { l with
      count := l.count + 1
      holder := Function.update l.holder object.path (some l.count)
      states := Function.update l.states l.count [object] }
  | .unregister path => { l with holder := Function.update l.holder path none }
  | .lend path => { l with chain := (l.holder path).toList ++ l.chain }
  | .giveBack object =>
    match l.chain with
    | [] => l
    | n :: rest =>
      { l with chain := rest, states := Function.update l.states n (object :: l.states n) }
  | _ => l

/-- The ledger after some steps. -/
def after (l : Ledger H) (steps : List (Step H)) : Ledger H :=
  steps.foldl next l

@[simp] theorem after_nil (l : Ledger H) : l.after [] = l := rfl

@[simp] theorem after_cons (l : Ledger H) (s : Step H) (steps : List (Step H)) :
    l.after (s :: steps) = (l.next s).after steps := rfl

@[simp] theorem after_append (l : Ledger H) (first second : List (Step H)) :
    l.after (first ++ second) = (l.after first).after second :=
  List.foldl_append

/-- The ledger of some steps on a bus that is empty at first. -/
def of (steps : List (Step H)) : Ledger H :=
  ({} : Ledger H).after steps

/-- The path of a number. -/
def home (l : Ledger H) (n : Nat) : Option ObjectPath :=
  (l.states n).head?.map (·.path)

/-- The place at a path: taken if its holder is serving a call, and else the newest state of it. -/
def place (l : Ledger H) (path : ObjectPath) : Option (Place H) :=
  (l.holder path).bind fun n =>
    if n ∈ l.chain then some .serving else (l.states n).head?.map .idle

/-- The object that can be had from a path: its holder, unless that is serving a call. -/
def free (l : Ledger H) (path : ObjectPath) : Option (Object H) :=
  (l.holder path).bind fun n => if n ∈ l.chain then none else (l.states n).head?

variable {l : Ledger H} {path q : ObjectPath} {object : Object H}

/-- What can be lent holds its path and is serving no call. -/
theorem place_eq_idle_iff :
    l.place path = some (.idle object) ↔
      ∃ n, l.holder path = some n ∧ n ∉ l.chain ∧ object ∈ (l.states n).head? := by
  rw [place, Option.bind_eq_some_iff]
  refine exists_congr fun n => and_congr_right fun _ => ?_
  by_cases hn : n ∈ l.chain <;> simp [hn]

theorem place_eq_serving_iff :
    l.place path = some .serving ↔ ∃ n, l.holder path = some n ∧ n ∈ l.chain := by
  rw [place, Option.bind_eq_some_iff]
  refine exists_congr fun n => and_congr_right fun _ => ?_
  by_cases hn : n ∈ l.chain <;> simp [hn]

theorem free_eq_some_iff : l.free path = some object ↔ l.place path = some (.idle object) := by
  rw [place_eq_idle_iff, free, Option.bind_eq_some_iff]
  refine exists_congr fun n => and_congr_right fun _ => ?_
  by_cases hn : n ∈ l.chain <;> simp [hn]

/-! ### The parts of a ledger after a step -/

theorem holder_register : (l.next (.register object)).holder q =
    if q = object.path then some l.count else l.holder q :=
  Function.update_apply _ _ _ _

theorem holder_unregister :
    (l.next (.unregister path)).holder q = if q = path then none else l.holder q :=
  Function.update_apply _ _ _ _

theorem holder_giveBack : (l.next (.giveBack object)).holder = l.holder := by
  rw [next]
  split <;> rfl

theorem next_giveBack {n : Nat} {rest : List Nat} (hchain : l.chain = n :: rest) :
    l.next (.giveBack object) =
      { l with chain := rest, states := Function.update l.states n (object :: l.states n) } := by
  rw [next, hchain]

theorem next_lend {n : Nat} (hn : l.holder path = some n) :
    l.next (.lend path) = { l with chain := n :: l.chain } := by
  rw [next, hn]
  rfl

theorem next_number : l.next .number = l := rfl

/-- A new number leaves the others where they are. -/
theorem home_register {n : Nat} (hn : n < l.count) :
    (l.next (.register object)).home n = l.home n := by
  simp [home, next, Function.update_of_ne (Nat.ne_of_lt hn)]

theorem place_unregister :
    (l.next (.unregister path)).place q = if q = path then none else l.place q := by
  by_cases hq : q = path
  · simp [place, holder_unregister, hq]
  · rw [place, holder_unregister, if_neg hq, if_neg hq]
    rfl

/-! ### Numbers without a path -/

/-- A number that holds no path any more. -/
structure Retired (l : Ledger H) (n : Nat) : Prop where
  given : n < l.count
  homeless : ∀ path, l.holder path ≠ some n

theorem Retired.next {n : Nat} (h : l.Retired n) (s : Step H) : (l.next s).Retired n := by
  cases s with
  | register object =>
    refine ⟨Nat.lt_succ_of_lt h.given, fun q hq => ?_⟩
    rw [holder_register] at hq
    split at hq
    · exact Nat.ne_of_gt h.given (Option.some.inj hq)
    · exact h.homeless q hq
  | unregister path =>
    refine ⟨h.given, fun q hq => ?_⟩
    rw [holder_unregister] at hq
    split at hq
    · cases hq
    · exact h.homeless q hq
  | giveBack object =>
    rw [Ledger.next]
    split <;> exact ⟨h.given, h.homeless⟩
  | number | lend | emit | subscribe | receive | drop => exact ⟨h.given, h.homeless⟩

theorem Retired.after {n : Nat} (h : l.Retired n) (steps : List (Step H)) :
    (l.after steps).Retired n := by
  induction steps generalizing l with
  | nil => exact h
  | cons s rest ih => exact ih (h.next s)

/-- A number without a path that serves no call will serve none. -/
theorem Retired.states_next {n : Nat} (h : l.Retired n) (hidle : n ∉ l.chain) (s : Step H) :
    n ∉ (l.next s).chain ∧ (l.next s).states n = l.states n := by
  cases s with
  | register object => exact ⟨hidle, Function.update_of_ne (Nat.ne_of_lt h.given) _ _⟩
  | lend path =>
    refine ⟨fun hmem => ?_, rfl⟩
    obtain hn | hn := List.mem_append.1 hmem
    · exact h.homeless path (Option.mem_toList.1 hn)
    · exact hidle hn
  | giveBack object =>
    cases hchain : l.chain with
    | nil =>
      rw [Ledger.next, hchain]
      exact ⟨hidle, rfl⟩
    | cons k rest =>
      rw [hchain, List.mem_cons, not_or] at hidle
      rw [next_giveBack hchain]
      exact ⟨hidle.2, Function.update_of_ne hidle.1 _ _⟩
  | number | unregister | emit | subscribe | receive | drop => exact ⟨hidle, rfl⟩

theorem Retired.states_after {n : Nat} (h : l.Retired n) (hidle : n ∉ l.chain)
    (steps : List (Step H)) :
    n ∉ (l.after steps).chain ∧ (l.after steps).states n = l.states n := by
  induction steps generalizing l with
  | nil => exact ⟨hidle, rfl⟩
  | cons s rest ih =>
    obtain ⟨hidle', hstates⟩ := h.states_next hidle s
    obtain ⟨hidle'', hstates'⟩ := ih (h.next s) hidle'
    exact ⟨hidle'', hstates'.trans hstates⟩

theorem holder_next_eq_none (h : l.holder path = none) {s : Step H}
    (hs : ∀ object, s = .register object → object.path ≠ path) : (l.next s).holder path = none := by
  cases s with
  | register object => rw [holder_register, if_neg (hs object rfl).symm, h]
  | unregister q => rw [holder_unregister, h, ite_self]
  | giveBack object => rw [holder_giveBack, h]
  | number | lend | emit | subscribe | receive | drop => exact h

/-- A path that nobody holds is free until an object is put there. -/
theorem holder_after_eq_none (h : l.holder path = none) {steps : List (Step H)}
    (hsteps : ∀ object, .register object ∈ steps → object.path ≠ path) :
    (l.after steps).holder path = none := by
  induction steps generalizing l with
  | nil => exact h
  | cons s rest ih =>
    obtain hs := fun object (heq : s = .register object) =>
      hsteps object (heq ▸ List.mem_cons_self)
    exact ih (holder_next_eq_none h hs) fun object hmem =>
      hsteps object (List.mem_cons_of_mem s hmem)

/-! ### Calls in progress -/

/-- The calls that were in progress are so still, and their objects are as they were. -/
structure Keeps (l l' : Ledger H) : Prop where
  chain : l'.chain = l.chain
  states : ∀ n ∈ l.chain, l'.states n = l.states n

theorem Keeps.refl (l : Ledger H) : l.Keeps l :=
  ⟨rfl, fun _ _ => rfl⟩

theorem Keeps.trans {l₁ l₂ : Ledger H} (h : l.Keeps l₁) (h' : l₁.Keeps l₂) : l.Keeps l₂ where
  chain := h'.chain.trans h.chain
  states n hn := (h'.states n (h.chain.symm ▸ hn)).trans (h.states n hn)

/-! ### Sound ledgers -/

variable [InterfaceHandler H]

/-- What every ledger of a run is like. -/
structure Sound (l : Ledger H) : Prop where
  /-- Nothing is known of numbers that have not been given out. -/
  unknown : ∀ n, l.count ≤ n → l.states n = []
  /-- A number that serves a call has been given out. -/
  given : ∀ n ∈ l.chain, n < l.count
  /-- A number holds no other path than its own. -/
  home : ∀ path n, l.holder path = some n → l.home n = some path
  /-- The holder of a path came later than all others from there that are still serving calls. -/
  newest : ∀ path n, l.holder path = some n → ∀ k ∈ l.chain, l.home k = some path → k ≤ n
  /-- Of two numbers from one path, the one with the inner call came later. -/
  nested : l.chain.Pairwise fun n k => l.home k = l.home n → k < n
  /-- From one state to the next an object has served a call. -/
  served : ∀ n, (l.states n).IsChain fun new old => old.Becomes new

/-- Whether a step may be made. What is lent is in its place, and what is given back is what was
lent last, after a call. -/
def Fits (l : Ledger H) : Step H → Prop
  | .lend path => ∃ object, l.place path = some (.idle object)
  | .giveBack object =>
    ∃ n rest, l.chain = n :: rest ∧ ∃ old ∈ (l.states n).head?, old.Becomes object
  | _ => True

theorem sound_empty : ({} : Ledger H).Sound where
  unknown _ _ := rfl
  given _ hn := by cases hn
  home _ _ h := by cases h
  newest _ _ h := by cases h
  nested := .nil
  served _ := .nil

theorem Sound.lt_count (h : l.Sound) {n : Nat} (hn : l.holder path = some n) :
    n < l.count := by
  by_contra hge
  have hhome := h.home path n hn
  rw [Ledger.home, h.unknown n (Nat.le_of_not_lt hge)] at hhome
  cases hhome

/-- The holder of a path has a newest state, which is at that path. -/
theorem Sound.exists_state (h : l.Sound) {n : Nat}
    (hn : l.holder path = some n) :
    ∃ object older, l.states n = object :: older ∧ object.path = path := by
  have hhome := h.home path n hn
  rw [Ledger.home] at hhome
  cases hstates : l.states n with
  | nil => simp [hstates] at hhome
  | cons object older =>
    rw [hstates] at hhome
    exact ⟨object, older, rfl, Option.some.inj hhome⟩

theorem Sound.nodup (h : l.Sound) : l.chain.Nodup :=
  h.nested.imp fun hlt heq => absurd (hlt (congrArg l.home heq.symm)) (by omega)

/-! ### What a step makes of a sound ledger -/

/-- An object comes back to the path from which it was lent. -/
theorem home_giveBack (hfits : l.Fits (.giveBack object)) (n : Nat) :
    (l.next (.giveBack object)).home n = l.home n := by
  obtain ⟨k, rest, hchain, old, hold, hbecomes⟩ := hfits
  rw [next_giveBack hchain]
  by_cases hn : n = k
  · subst hn
    simp [home, Option.mem_def.1 hold, hbecomes.path_eq]
  · simp [home, Function.update_of_ne hn]

theorem Sound.register (h : l.Sound) (object : Object H) : (l.next (.register object)).Sound where
  unknown n hn := by
    have hn : l.count + 1 ≤ n := hn
    exact (Function.update_of_ne (by omega) _ _).trans (h.unknown n (by omega))
  given n hn := Nat.lt_succ_of_lt (h.given n hn)
  home path n hn := by
    rw [holder_register] at hn
    split at hn
    · next hpath =>
      obtain rfl := Option.some.inj hn
      simp [Ledger.home, Ledger.next, hpath]
    · rw [home_register (h.lt_count hn), h.home path n hn]
  newest path n hn k hk hhome := by
    rw [home_register (h.given k hk)] at hhome
    rw [holder_register] at hn
    split at hn
    · obtain rfl := Option.some.inj hn
      exact Nat.le_of_lt (h.given k hk)
    · exact h.newest path n hn k hk hhome
  nested := by
    refine h.nested.imp_of_mem fun {n k} hn hk hlt hhome => ?_
    rw [home_register (h.given k hk), home_register (h.given n hn)] at hhome
    exact hlt hhome
  served n := by
    by_cases hn : n = l.count
    · subst hn
      simp [Ledger.next]
    · simpa [Ledger.next, hn] using h.served n

theorem Sound.unregister (h : l.Sound) (path : ObjectPath) : (l.next (.unregister path)).Sound := by
  have hholder : ∀ q n, (l.next (.unregister path)).holder q = some n → l.holder q = some n := by
    intro q n hn
    rw [holder_unregister] at hn
    split at hn
    · cases hn
    · exact hn
  exact {
    unknown := h.unknown
    given := h.given
    home := fun q n hn => h.home q n (hholder q n hn)
    newest := fun q n hn => h.newest q n (hholder q n hn)
    nested := h.nested
    served := h.served }

theorem Sound.lend (h : l.Sound) (hfits : l.Fits (.lend path)) : (l.next (.lend path)).Sound := by
  obtain ⟨object, hplace⟩ := hfits
  obtain ⟨n, hn, hidle, -⟩ := place_eq_idle_iff.1 hplace
  rw [next_lend hn]
  exact {
    unknown := h.unknown
    given := List.forall_mem_cons.2 ⟨h.lt_count hn, h.given⟩
    home := h.home
    newest := by
      intro q m hm k hk hhome
      obtain rfl | hk := List.mem_cons.1 hk
      · -- The number that is lent holds one path only, so it is `m` itself.
        obtain rfl : path = q := Option.some.inj ((h.home path k hn).symm.trans hhome)
        exact Nat.le_of_eq (Option.some.inj (hn.symm.trans hm))
      · exact h.newest q m hm k hk hhome
    nested := by
      refine .cons (fun k hk hhome => ?_) h.nested
      have hle := h.newest path n hn k hk (hhome.trans (h.home path n hn))
      have hne : k ≠ n := fun heq => hidle (heq ▸ hk)
      omega
    served := h.served }

theorem Sound.giveBack (h : l.Sound) (hfits : l.Fits (.giveBack object)) :
    (l.next (.giveBack object)).Sound := by
  have hhome := home_giveBack hfits
  obtain ⟨n, rest, hchain, old, hold, hbecomes⟩ := hfits
  have hmem : ∀ k ∈ rest, k ∈ l.chain := fun k hk => hchain ▸ List.mem_cons_of_mem n hk
  have hgiven : n < l.count := h.given n (hchain ▸ List.mem_cons_self)
  rw [next_giveBack hchain] at hhome ⊢
  exact {
    unknown := fun k hk =>
      (Function.update_of_ne (Nat.ne_of_gt (Nat.lt_of_lt_of_le hgiven hk)) _ _).trans
        (h.unknown k hk)
    given := fun k hk => h.given k (hmem k hk)
    home := fun q k hk => (hhome k).trans (h.home q k hk)
    newest := fun q m hm k hk hq => h.newest q m hm k (hmem k hk) ((hhome k).symm.trans hq)
    nested := by
      simp only [hhome]
      exact (List.pairwise_cons.1 (hchain ▸ h.nested)).2
    served := by
      intro k
      by_cases hk : k = n
      · subst hk
        simp only [Function.update_self]
        refine List.isChain_cons.2 ⟨fun newest hnewest => ?_, h.served k⟩
        obtain rfl := Option.mem_unique hold hnewest
        exact hbecomes
      · simpa only [Function.update_of_ne hk] using h.served k }

theorem Sound.next (h : l.Sound) {s : Step H} (hfits : l.Fits s) : (l.next s).Sound := by
  cases s with
  | register object => exact h.register object
  | unregister path => exact h.unregister path
  | lend path => exact h.lend hfits
  | giveBack object => exact h.giveBack hfits
  | number | emit | subscribe | receive | drop => exact h

/-! ### What a step makes of the places -/

theorem Sound.place_register (h : l.Sound) :
    (l.next (.register object)).place q =
      if q = object.path then some (.idle object) else l.place q := by
  have hfresh : l.count ∉ l.chain := fun hmem => Nat.lt_irrefl _ (h.given _ hmem)
  by_cases hq : q = object.path
  · subst hq
    simp [place, Ledger.next, hfresh]
  · rw [if_neg hq]
    cases hn : l.holder q with
    | none => simp [place, holder_register, hq, hn]
    | some n =>
      simp [place, Ledger.next, hq, hn, Function.update_of_ne (Nat.ne_of_lt (h.lt_count hn))]

theorem Sound.place_lend (h : l.Sound) (hfits : l.Fits (.lend path)) :
    (l.next (.lend path)).place q = if q = path then some .serving else l.place q := by
  obtain ⟨object, hplace⟩ := hfits
  obtain ⟨n, hn, -⟩ := place_eq_idle_iff.1 hplace
  rw [next_lend hn]
  by_cases hq : q = path
  · subst hq
    simp [place, hn]
  · rw [if_neg hq]
    cases hk : l.holder q with
    | none => simp [place, hk]
    | some k =>
      have hne : k ≠ n := by
        rintro rfl
        exact hq (Option.some.inj ((h.home q k hk).symm.trans (h.home path k hn)))
      simp [place, hk, hne]

/-- If the path of an object that comes back is taken, it is taken by the number of this object. -/
theorem Sound.holder_of_serving (h : l.Sound) {n : Nat} {rest : List Nat}
    (hchain : l.chain = n :: rest) (hhome : l.home n = some path)
    (hserving : l.place path = some .serving) : l.holder path = some n := by
  obtain ⟨k, hk, hmem⟩ := place_eq_serving_iff.1 hserving
  rw [hchain] at hmem
  obtain rfl | hrest := List.mem_cons.1 hmem
  · exact hk
  · -- The holder `k` would have begun its call before `n`, and yet be newer.
    have hle : n ≤ k := h.newest path k hk n (hchain ▸ List.mem_cons_self) hhome
    have hnested := h.nested
    rw [hchain, List.pairwise_cons] at hnested
    have hlt : k < n := hnested.1 k hrest ((h.home path k hk).trans hhome.symm)
    omega

/-- The return of an object fills the place that was kept for it. -/
theorem Sound.place_giveBack_of_serving (h : l.Sound) (hfits : l.Fits (.giveBack object))
    (hserving : l.place object.path = some .serving) :
    (l.next (.giveBack object)).place q =
      if q = object.path then some (.idle object) else l.place q := by
  obtain ⟨n, rest, hchain, old, hold, hbecomes⟩ := hfits
  have hhome : l.home n = some object.path := by
    rw [Ledger.home, Option.mem_def.1 hold, hbecomes.path_eq]
    rfl
  have hn : l.holder object.path = some n := h.holder_of_serving hchain hhome hserving
  have hrest : n ∉ rest := (List.nodup_cons.1 (hchain ▸ h.nodup)).1
  rw [next_giveBack hchain]
  by_cases hq : q = object.path
  · subst hq
    simp [place, hn, hrest]
  · rw [if_neg hq]
    cases hk : l.holder q with
    | none => simp [place, hk]
    | some k =>
      have hne : k ≠ n := by
        rintro rfl
        exact hq (Option.some.inj ((h.home q k hk).symm.trans hhome))
      simp [place, hk, hchain, hne]

/-- An object that has lost its path does not come back to it. -/
theorem Sound.place_giveBack_of_not_serving (h : l.Sound) (hfits : l.Fits (.giveBack object))
    (hserving : l.place object.path ≠ some .serving) :
    (l.next (.giveBack object)).place q = l.place q := by
  obtain ⟨n, rest, hchain, old, hold, hbecomes⟩ := hfits
  rw [next_giveBack hchain]
  cases hk : l.holder q with
  | none => simp [place, hk]
  | some k =>
    have hne : k ≠ n := by
      rintro rfl
      have hhome := h.home q k hk
      rw [Ledger.home, Option.mem_def.1 hold, Option.map_some, ← hbecomes.path_eq,
        Option.some.injEq] at hhome
      subst hhome
      exact hserving (place_eq_serving_iff.2 ⟨k, hk, hchain ▸ List.mem_cons_self⟩)
    simp [place, hk, hchain, hne]

/-! ### Orderly steps -/

/-- Whether steps may be made one after the other. -/
def Orderly : Ledger H → List (Step H) → Prop
  | _, [] => True
  | l, s :: rest => l.Fits s ∧ (l.next s).Orderly rest

theorem orderly_cons {s : Step H} {rest : List (Step H)} :
    l.Orderly (s :: rest) ↔ l.Fits s ∧ (l.next s).Orderly rest := Iff.rfl

theorem orderly_append {first second : List (Step H)} :
    l.Orderly (first ++ second) ↔ l.Orderly first ∧ (l.after first).Orderly second := by
  induction first generalizing l with
  | nil => simp [Orderly]
  | cons s rest ih => simp [Orderly, ih, and_assoc]

/-! ### What becomes of numbers -/

theorem Sound.retired_unregister (h : l.Sound) {n : Nat} (hn : l.holder path = some n) :
    (l.next (.unregister path)).Retired n where
  given := h.lt_count hn
  homeless q hq := by
    rw [holder_unregister] at hq
    split at hq
    · cases hq
    · next hne => exact hne (Option.some.inj ((h.home q n hq).symm.trans (h.home path n hn)))

/-- A step that has nothing to do with a call may always be made, and leaves the calls alone. -/
theorem Sound.keeps_next (h : l.Sound) {s : Step H} (hs : s.Aside) :
    l.Fits s ∧ l.Keeps (l.next s) := by
  cases s with
  | lend | giveBack => exact hs.elim
  | register object =>
    exact ⟨trivial, rfl, fun n hn => Function.update_of_ne (Nat.ne_of_lt (h.given n hn)) _ _⟩
  | number | unregister | emit | subscribe | receive | drop =>
    exact ⟨trivial, rfl, fun _ _ => rfl⟩

/-- A call that has been served leaves the other calls as they were, and puts what it has made of
the object before all that the object has been. -/
theorem giveBack_lent {l₁ : Ledger H} {object' : Object H}
    (hplace : l.place path = some (.idle object)) (hbecomes : object.Becomes object')
    (hkeeps : (l.next (.lend path)).Keeps l₁) :
    l₁.Fits (.giveBack object') ∧ l.Keeps (l₁.next (.giveBack object')) ∧
      ∀ n, l.holder path = some n →
        (l₁.next (.giveBack object')).states n = object' :: l.states n := by
  obtain ⟨n, hn, hidle, hstate⟩ := place_eq_idle_iff.1 hplace
  obtain ⟨hchain, hstates⟩ := hkeeps
  rw [next_lend hn] at hchain hstates
  have hself : l₁.states n = l.states n := hstates n List.mem_cons_self
  refine ⟨⟨n, l.chain, hchain, object, hself ▸ hstate, hbecomes⟩, ?_, ?_⟩
  · rw [next_giveBack hchain]
    refine ⟨rfl, fun k hk => ?_⟩
    have hne : k ≠ n := fun heq => hidle (heq ▸ hk)
    exact (Function.update_of_ne hne _ _).trans (hstates k (List.mem_cons_of_mem n hk))
  · intro k hk
    obtain rfl := Option.some.inj (hn.symm.trans hk)
    rw [next_giveBack hchain, ← hself]
    exact Function.update_self _ _ _

end Ledger

/-! ### The ledger and the bus -/

variable [InterfaceHandler H]

/-- The places of a bus are those of a sound ledger. -/
structure Accords (b : Bus H) (l : Ledger H) : Prop where
  sound : l.Sound
  places : ∀ path, b.placeOf path = l.place path

theorem accords_empty : Accords ({} : Bus H) {} :=
  ⟨Ledger.sound_empty, fun _ => rfl⟩

variable {b : Bus H} {l : Ledger H}

theorem Accords.next (h : Accords b l) {s : Step H} (hfits : l.Fits s) :
    Accords (b.next s) (l.next s) := by
  refine ⟨h.sound.next hfits, fun q => ?_⟩
  have hplace := h.places
  cases s with
  | register object =>
    rw [h.sound.place_register, ← hplace]
    exact placeOf_occupy
  | unregister path =>
    rw [Ledger.place_unregister, ← hplace]
    exact placeOf_vacate
  | lend path =>
    rw [h.sound.place_lend hfits, ← hplace]
    exact placeOf_occupy
  | giveBack object =>
    show (b.giveBack object).placeOf q = _
    by_cases hserving : l.place object.path = some .serving
    · rw [h.sound.place_giveBack_of_serving hfits hserving, ← hplace,
        giveBack_of_serving ((hplace _).trans hserving)]
      exact placeOf_occupy
    · rw [h.sound.place_giveBack_of_not_serving hfits hserving, ← hplace,
        giveBack_of_not_serving fun heq => hserving ((hplace _).symm.trans heq)]
  | number | emit | subscribe | receive | drop => exact hplace q

theorem Accords.after (h : Accords b l) {steps : List (Step H)} (hsteps : l.Orderly steps) :
    Accords (b.after steps) (l.after steps) := by
  induction steps generalizing b l with
  | nil => exact h
  | cons s rest ih => exact ih (h.next hsteps.1) hsteps.2

/-- What can be had from a path is what the ledger says. -/
theorem Accords.idleAt (h : Accords b l) (path : ObjectPath) : b.idleAt path = l.free path := by
  ext object
  rw [Ledger.free_eq_some_iff, ← h.places, idleAt_eq_some_iff]

end Bus

end DBus
