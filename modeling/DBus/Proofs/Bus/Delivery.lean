import DBus.Object.Script
import DBus.Proofs.Bus.Runs

/-!
# Delivery of signals

From its opening until it is given up a subscription gets every signal that is sent and that its
rule accepts, each once and in the order in which they are sent. Who sends them does not matter: the
user of the bus, or a handler in the middle of a call, however deep. Sending also removes the
subscriptions that have been given up, and only those.
-/

namespace DBus

namespace Bus

variable {H : Type} {b : Bus H} {id : Nat} {rule : MatchRule} {queue : List Message}

/-! ### What the steps of a run show -/

/-- What is seen of steps, from a bus on. -/
def seen (view : Bus H → Step H → List Message) : Bus H → List (Step H) → List Message
  | _, [] => []
  | b, s :: rest => view b s ++ seen view (b.next s) rest

/-- The signal that is sent by a step, with its serial. -/
def sending (b : Bus H) : Step H → List Message
  | .emit m => [m.withSerial b.nextSerial.1]
  | _ => []

/-- The signal that is taken from a subscription by a step. -/
def taking (id : Nat) (b : Bus H) : Step H → List Message
  | .receive i => if i = id then (b.receive i).1.toList else []
  | _ => []

/-- The signals that are sent in some steps. -/
def sent : Bus H → List (Step H) → List Message :=
  seen sending

/-- The signals that are taken from a subscription in some steps. -/
def taken (id : Nat) : Bus H → List (Step H) → List Message :=
  seen (taking id)

theorem seen_append (view : Bus H → Step H → List Message) (b : Bus H)
    (first second : List (Step H)) :
    seen view b (first ++ second) = seen view b first ++ seen view (b.after first) second := by
  induction first generalizing b with
  | nil => rfl
  | cons s rest ih => simp [seen, ih]

/-! ### The subscriptions with one number -/

/-- The subscriptions with a number. There is at most one, as the numbers are given out in order. -/
def numbered (b : Bus H) (id : Nat) : List Subscription :=
  b.subscriptions.filter (·.id == id)

theorem subscription?_eq_find? (b : Bus H) (id : Nat) :
    b.subscription? id = (b.numbered id).find? (·.isOpen) := by
  simp only [subscription?, numbered, List.find?_filter, Bool.decide_and, Bool.decide_eq_true]

theorem offered_id {m : Message} {s s' : Subscription} (h : s.offered m = some s') :
    s'.id = s.id := by
  unfold Subscription.offered at h
  split at h
  · cases h
  · split at h <;> cases h <;> rfl

theorem numbered_emit (b : Bus H) (m : Message) (id : Nat) :
    (b.emit m).numbered id
      = (b.numbered id).filterMap (Subscription.offered (m.withSerial b.nextSerial.1)) := by
  simp only [numbered, emit, List.filter_filterMap, List.filterMap_filter]
  congr 1
  funext s
  show (s.offered (m.withSerial b.nextSerial.1)).filter _ = _
  cases h : s.offered (m.withSerial b.nextSerial.1) with
  | none => simp
  | some s' => simp [Option.filter, offered_id h]

theorem numbered_subscribe (b : Bus H) (rule : MatchRule) (id : Nat) :
    (b.subscribe rule).2.numbered id
      = b.numbered id ++ if b.nextSubscription = id then [{ id := id, rule }] else [] := by
  simp only [numbered, subscribe, List.filter_append]
  by_cases h : b.nextSubscription = id <;> simp [h]

theorem numbered_changeSubscription (b : Bus H) (i : Nat) (change : Subscription → Subscription)
    (h : ∀ s, (change s).id = s.id) (id : Nat) :
    (b.changeSubscription i change).numbered id
      = if i = id then (b.numbered id).map change else b.numbered id := by
  have hid : (fun s : Subscription => s.id == id) ∘ (fun s => if s.id == i then change s else s)
      = fun s => s.id == id := by
    funext s
    simp only [Function.comp]
    split <;> simp [h]
  simp only [numbered, changeSubscription, List.filter_map, hid]
  have hnumber : ∀ s ∈ b.subscriptions.filter (·.id == id), s.id = id := by simp
  split
  · next hi => exact List.map_congr_left fun s hs => by simp [hnumber s hs, hi]
  · next hi =>
    refine (List.map_congr_left fun s hs => ?_).trans (List.map_id _)
    simp [hnumber s hs, Ne.symm hi]

theorem numbered_giveBack (b : Bus H) (object : Object H) (id : Nat) :
    (b.giveBack object).numbered id = b.numbered id := by
  unfold giveBack
  split <;> rfl

/-- What a step makes of the subscriptions with a number. -/
theorem numbered_next (b : Bus H) (s : Step H) (id : Nat) :
    (b.next s).numbered id =
      match s with
      | .emit m =>
        (b.numbered id).filterMap (Subscription.offered (m.withSerial b.nextSerial.1))
      | .subscribe rule =>
        b.numbered id ++ if b.nextSubscription = id then [{ id := id, rule }] else []
      | .receive i =>
        if i = id then (b.numbered id).map fun s => { s with queue := s.queue.tail }
        else b.numbered id
      | .drop i =>
        if i = id then (b.numbered id).map fun s => { s with queue := [], isOpen := false }
        else b.numbered id
      | _ => b.numbered id := by
  cases s with
  | number | register | unregister | lend => rfl
  | giveBack object => exact numbered_giveBack b object id
  | emit m => exact numbered_emit b m id
  | subscribe rule => exact numbered_subscribe b rule id
  | receive i => exact numbered_changeSubscription b i _ (by exact fun _ => rfl) id
  | drop i => exact numbered_changeSubscription b i _ (by exact fun _ => rfl) id

/-- Numbers are given out one after the other, by nothing but the opening of subscriptions. -/
theorem nextSubscription_next (b : Bus H) (s : Step H) :
    (b.next s).nextSubscription =
      match s with
      | .subscribe _ => b.nextSubscription + 1
      | _ => b.nextSubscription := by
  cases s with
  | giveBack object =>
    simp only [next, giveBack]
    split <;> rfl
  | _ => rfl

theorem nextSubscription_le_next (b : Bus H) (s : Step H) :
    b.nextSubscription ≤ (b.next s).nextSubscription := by
  rw [nextSubscription_next]
  cases s <;> simp

/-! ### Numbers that have not been given out -/

/-- No subscription has a number that is still to be given out. -/
def Fresh (b : Bus H) : Prop :=
  ∀ id, b.nextSubscription ≤ id → b.numbered id = []

theorem fresh_empty : Fresh ({} : Bus H) :=
  fun _ _ => rfl

theorem Fresh.next (h : Fresh b) (s : Step H) : Fresh (b.next s) := by
  intro id hid
  have hold : b.nextSubscription ≤ id := Nat.le_trans (nextSubscription_le_next b s) hid
  rw [numbered_next]
  rw [nextSubscription_next] at hid
  cases s with
  | subscribe rule => simp only at hid; simp [h id hold]; omega
  | _ => simp [h id hold]

theorem Fresh.after (h : Fresh b) (steps : List (Step H)) : Fresh (b.after steps) := by
  induction steps generalizing b with
  | nil => exact h
  | cons s rest ih => exact ih (h.next s)

/-! ### A subscription that is open -/

/-- There is an open subscription with a number, and no other with that number. -/
structure Standing (b : Bus H) (id : Nat) (rule : MatchRule) (queue : List Message) : Prop where
  sole : b.numbered id = [{ id := id, rule, queue }]
  given : id < b.nextSubscription

theorem Fresh.standing (h : Fresh b) (rule : MatchRule) :
    Standing (b.subscribe rule).2 b.nextSubscription rule [] where
  sole := by rw [numbered_subscribe, h _ (Nat.le_refl _)]; simp
  given := Nat.lt_succ_self _

/-- What is taken next is the signal that waits longest. -/
theorem Standing.receive (h : Standing b id rule queue) : (b.receive id).1 = queue.head? := by
  simp [Bus.receive, subscription?_eq_find?, h.sole]

/-- A step takes the oldest of the signals that wait or puts one behind them. -/
theorem Standing.next (h : Standing b id rule queue) {s : Step H} (hs : s ≠ .drop id) :
    ∃ queue', Standing (b.next s) id rule queue' ∧
      taking id b s ++ queue' = queue ++ (sending b s).filter rule.accepts := by
  have hgiven : id < (b.next s).nextSubscription :=
    Nat.lt_of_lt_of_le h.given (nextSubscription_le_next b s)
  have hnext := numbered_next b s id
  rw [h.sole] at hnext
  cases s with
  | number | register | unregister | lend | giveBack =>
    exact ⟨queue, ⟨hnext, hgiven⟩, by simp [taking, sending]⟩
  | emit m =>
    refine ⟨queue ++ (sending b (.emit m)).filter rule.accepts, ⟨hnext.trans ?_, hgiven⟩, rfl⟩
    by_cases haccepts : rule.accepts (m.withSerial b.nextSerial.1) <;>
      simp [sending, Subscription.offered, haccepts]
  | subscribe other =>
    have hother : b.nextSubscription ≠ id := Nat.ne_of_gt h.given
    exact ⟨queue, ⟨by simpa [hother] using hnext, hgiven⟩, by simp [taking, sending]⟩
  | receive i =>
    by_cases hi : i = id
    · subst hi
      refine ⟨queue.tail, ⟨by simpa using hnext, hgiven⟩, ?_⟩
      simp only [taking, sending, if_pos, h.receive]
      cases queue <;> simp
    · exact ⟨queue, ⟨by simpa [hi] using hnext, hgiven⟩, by simp [taking, sending, hi]⟩
  | drop i =>
    have hi : i ≠ id := fun heq => hs (congrArg Step.drop heq)
    exact ⟨queue, ⟨by simpa [hi] using hnext, hgiven⟩, by simp [taking, sending]⟩

/-- While a subscription is not given up, what is taken from it and what waits in the end are what
waited at first and then the signals that are sent and accepted. -/
theorem Standing.after (h : Standing b id rule queue) {steps : List (Step H)}
    (hdrop : .drop id ∉ steps) :
    ∃ queue', Standing (b.after steps) id rule queue' ∧
      taken id b steps ++ queue' = queue ++ (sent b steps).filter rule.accepts := by
  induction steps generalizing b queue with
  | nil => exact ⟨queue, h, by simp [taken, sent, seen]⟩
  | cons s rest ih =>
    -- `queue₁` waits between the first step and the others: what one leaves the others begin with.
    obtain ⟨queue₁, h₁, hfirst⟩ := h.next fun heq => hdrop (heq ▸ List.mem_cons_self)
    obtain ⟨queue₂, h₂, hrest⟩ := ih h₁ fun hmem => hdrop (List.mem_cons_of_mem _ hmem)
    refine ⟨queue₂, h₂, ?_⟩
    calc taken id b (s :: rest) ++ queue₂
        = taking id b s ++ (taken id (b.next s) rest ++ queue₂) := by simp [taken, seen]
      _ = (taking id b s ++ queue₁) ++ (sent (b.next s) rest).filter rule.accepts := by
        rw [hrest, List.append_assoc]
      _ = queue ++ (sent b (s :: rest)).filter rule.accepts := by
        rw [hfirst]
        simp [sent, seen]

/-! ### A subscription that has been given up -/

/-- A number has been given out, and nobody takes signals under it any more. -/
structure GivenUp (b : Bus H) (id : Nat) : Prop where
  closed : ∀ s ∈ b.numbered id, s.isOpen = false
  given : id < b.nextSubscription

theorem Standing.drop (h : Standing b id rule queue) : GivenUp (b.drop id) id where
  closed := by
    have hnext := numbered_next b (.drop id) id
    rw [h.sole] at hnext
    simp [show (b.drop id).numbered id = _ from hnext]
  given := h.given

theorem GivenUp.receive (h : GivenUp b id) : (b.receive id).1 = none := by
  have hnone : (b.numbered id).find? (·.isOpen) = none :=
    List.find?_eq_none.mpr fun s hs => by simp [h.closed s hs]
  simp [Bus.receive, subscription?_eq_find?, hnone]

/-- The sending of a signal removes what has been given up. -/
theorem GivenUp.emit (h : GivenUp b id) (m : Message) : (b.emit m).numbered id = [] := by
  rw [numbered_emit, List.filterMap_eq_nil_iff]
  intro s hs
  simp [Subscription.offered, h.closed s hs]

theorem GivenUp.next (h : GivenUp b id) (s : Step H) :
    GivenUp (b.next s) id ∧ taking id b s = [] := by
  have hgiven : id < (b.next s).nextSubscription :=
    Nat.lt_of_lt_of_le h.given (nextSubscription_le_next b s)
  have hnext := numbered_next b s id
  have hclosed := h.closed
  cases s with
  | number | register | unregister | lend | giveBack =>
    exact ⟨⟨by simpa only [hnext] using hclosed, hgiven⟩, rfl⟩
  | emit m =>
    have hnone : (b.next (.emit m)).numbered id = [] := h.emit m
    exact ⟨⟨by simp [hnone], hgiven⟩, rfl⟩
  | subscribe rule =>
    have hother : b.nextSubscription ≠ id := Nat.ne_of_gt h.given
    exact ⟨⟨by simpa [hnext, hother] using hclosed, hgiven⟩, rfl⟩
  | receive i =>
    by_cases hi : i = id
    · subst hi
      exact ⟨⟨by simpa [hnext] using hclosed, hgiven⟩, by simp [taking, h.receive]⟩
    · exact ⟨⟨by simpa [hnext, hi] using hclosed, hgiven⟩, by simp [taking, hi]⟩
  | drop i =>
    refine ⟨⟨?_, hgiven⟩, rfl⟩
    rw [hnext]
    by_cases hi : i = id
    · simp [hi]
    · simpa [hi] using hclosed

theorem GivenUp.after (h : GivenUp b id) (steps : List (Step H)) :
    GivenUp (b.after steps) id ∧ taken id b steps = [] := by
  induction steps generalizing b with
  | nil => exact ⟨h, rfl⟩
  | cons s rest ih =>
    obtain ⟨h₁, hfirst⟩ := h.next s
    obtain ⟨h₂, hrest⟩ := ih h₁
    exact ⟨h₂, by simpa [taken, seen, hfirst] using hrest⟩

/-! ### From the opening on -/

/-- What becomes in some steps of the subscription that the bus `b` has with a number and a rule. -/
structure Delivered (b : Bus H) (id : Nat) (rule : MatchRule) (steps : List (Step H)) : Prop where
  /-- Unless it has been given up, what has been taken and what waits are together the signals that
  have been sent and that the rule accepts, in the order in which they were sent. -/
  complete : .drop id ∉ steps →
    ∃ queue, (b.after steps).numbered id = [{ id := id, rule, queue }] ∧
      taken id b steps ++ queue = (sent b steps).filter rule.accepts
  /-- Nothing has been taken since it has been given up. -/
  ended : ∀ first rest, steps = first ++ .drop id :: rest → taken id b steps = taken id b first
  /-- It outlives the sending of a signal unless it has been given up. -/
  kept : ∀ m, ((b.after steps).emit m).numbered id ≠ [] ↔ .drop id ∉ steps

theorem Standing.givenUp (h : Standing b id rule queue) {steps : List (Step H)}
    (hdrop : .drop id ∈ steps) : GivenUp (b.after steps) id := by
  obtain ⟨first, rest, rfl, hfirst⟩ := List.eq_append_cons_of_mem hdrop
  obtain ⟨queue', h', -⟩ := h.after hfirst
  rw [after_append]
  exact (h'.drop.after rest).1

theorem Standing.delivered (h : Standing b id rule []) (steps : List (Step H)) :
    Delivered b id rule steps where
  complete hdrop := by
    obtain ⟨queue, hend, heq⟩ := h.after hdrop
    exact ⟨queue, hend.sole, heq⟩
  ended first rest heq := by
    -- The subscription may have been given up before the step that is looked at, so what is known
    -- after `first` is only that it is over when that step has been made.
    have hover : GivenUp (b.after (first ++ [.drop id])) id := h.givenUp (by simp)
    have hrest := (hover.after rest).2
    rw [heq, show first ++ .drop id :: rest = (first ++ [.drop id]) ++ rest by simp]
    simp only [taken, seen_append] at hrest ⊢
    rw [hrest]
    simp [seen, taking]
  kept m := by
    constructor
    · intro hkept hdrop
      exact hkept ((h.givenUp hdrop).emit m)
    · intro hdrop
      obtain ⟨queue, hend, -⟩ := h.after hdrop
      obtain ⟨queue', hstand, -⟩ := hend.next (s := .emit m) nofun
      have hsole : ((b.after steps).emit m).numbered id = _ := hstand.sole
      simp [hsole]

end Bus

namespace Recorded

open Bus

variable {H : Type} {α : Type} [InterfaceHandler H]

/-- At every point of every run, each subscription that has been opened and not given up has got the
signals that were sent since and that its rule accepts, and sending a signal removes a subscription
if and only if it has been given up. -/
theorem run_delivers (depth : Bus H → Nat) (s : Session H α) :
    (run depth s).forget = Exchange.ofSession (fun m => do Exchange.call (depth (← get)) m) s ∧
      ∀ before rule since rest,
        (run depth s {}).1 = before ++ .subscribe rule :: (since ++ rest) →
          Delivered ((({} : Bus H).after before).subscribe rule).2
            (({} : Bus H).after before).nextSubscription rule since := by
  refine ⟨forget_run depth s, fun before rule since rest _ => ?_⟩
  have hfresh : Fresh (({} : Bus H).after before) := fresh_empty.after before
  exact (hfresh.standing rule).delivered since

/-! ### A call within a call -/

/-- The path of one object. -/
def relayPath : ObjectPath := ⟨"/relay", by decide +kernel⟩

/-- The path of another object. -/
def sourcePath : ObjectPath := ⟨"/source", by decide +kernel⟩

/-- A signal of an object. -/
def changedAt (path : ObjectPath) : Message :=
  { Message.signal path "Changed" with interface := some "org.example" }

/-- A rule for this signal. -/
def changes (path : Option ObjectPath) : MatchRule :=
  { interface := "org.example", member := "Changed", path }

/-- An object with a method that sends a signal and goes on with some more actions. -/
def notifier (path : ObjectPath) (more : List Action) : Object Script :=
  ⟨path, [⟨"org.example", [("Notify", .emit (changedAt path) :: more)], [], 0⟩]⟩

/-- The objects of the run below; the method of the first calls that of the second. -/
def opening : List (Step Script) :=
  [.register (notifier relayPath [.call (.methodCall sourcePath "Notify")]),
    .register (notifier sourcePath [])]

/-- A call in which two signals are sent, and a third signal after one of two subscriptions has been
given up. -/
def relay : Session Script (Option Message) :=
  .register (notifier relayPath [.call (.methodCall sourcePath "Notify")]) fun _ =>
  .register (notifier sourcePath []) fun _ =>
  .subscribe (changes none) fun all =>
  .subscribe (changes (some sourcePath)) fun some =>
  .call (.methodCall relayPath "Notify") fun _ =>
  .receive all fun signal =>
  .drop some <|
  .emit (changedAt sourcePath) <|
  .done signal

/-- The steps of this run after its first subscription. -/
def relaying : List (Step Script) :=
  (run (·.places.length) relay {}).1.drop 3

/-- The bus with the first subscription of this run. -/
def subscribed : Bus Script :=
  ((({} : Bus Script).after opening).subscribe (changes none)).2

/-- One of three signals has been taken and two wait. -/
theorem relay_delivers :
    Delivered subscribed 0 (changes none) relaying ∧
      sent subscribed relaying =
        [(changedAt relayPath).withSerial (.after 1), (changedAt sourcePath).withSerial (.after 3),
          (changedAt sourcePath).withSerial (.after 6)] ∧
      taken 0 subscribed relaying = [(changedAt relayPath).withSerial (.after 1)] ∧
      ((subscribed.after relaying).numbered 1).isEmpty := by
  have hsteps : (run (·.places.length) relay {}).1
      = opening ++ .subscribe (changes none) :: (relaying ++ []) := by
    rw [List.append_nil]
    rfl
  exact ⟨(run_delivers (·.places.length) relay).2 opening (changes none) relaying [] hsteps,
    by decide +kernel, by decide +kernel, by decide +kernel⟩

end Recorded

end DBus
