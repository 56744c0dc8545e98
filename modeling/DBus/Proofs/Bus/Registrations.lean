import DBus.Object.Script
import DBus.Proofs.Bus.Ledger
import DBus.Proofs.Object.Faults

/-!
# Registrations

An object is on a bus from its registration until it is unregistered or another one takes its path.
At every point of every run the object that is handed out is the one that holds the path, unless
that is serving a call, and it is as the calls that it has served have left it. What has lost its
path is reached by no later call; but the call that it is serving is finished and answered as if
nothing had happened, also if the object itself gave up its path meanwhile.
-/

namespace DBus

open Bus (Step Ledger Accords)

namespace Recorded

variable {H : Type} {α β : Type}

/-- What a session ends with in a run it may end with. -/
theorem exists_ends_of_ofSession {serve : Message → Recorded H (Except Error Message)}
    {s : Session H α} {b : Bus H} {steps : List (Step H)} {a : α}
    (h : ofSession serve s b = (steps, some a)) : ∃ talk, s.Ends talk a := by
  induction s generalizing b steps with
  | done result =>
    obtain ⟨⟩ := h
    exact ⟨[], .done a⟩
  | register object next ih =>
    obtain ⟨_, _, _, -, h, -⟩ := bind_eq_some_iff.1 h
    obtain ⟨talk, hends⟩ := ih _ h
    exact ⟨_, .register hends⟩
  | unregister path next ih =>
    obtain ⟨_, _, _, -, h, -⟩ := bind_eq_some_iff.1 h
    obtain ⟨talk, hends⟩ := ih _ h
    exact ⟨_, .unregister hends⟩
  | emit m next ih =>
    obtain ⟨_, _, _, -, h, -⟩ := bind_eq_some_iff.1 h
    obtain ⟨talk, hends⟩ := ih h
    exact ⟨_, .emit hends⟩
  | call m next ih =>
    obtain ⟨_, _, _, -, h, -⟩ := bind_eq_some_iff.1 h
    obtain ⟨talk, hends⟩ := ih _ h
    exact ⟨_, .call hends⟩
  | subscribe rule next ih =>
    obtain ⟨_, _, _, -, h, -⟩ := bind_eq_some_iff.1 h
    obtain ⟨talk, hends⟩ := ih _ h
    exact ⟨_, .subscribe hends⟩
  | receive id next ih =>
    obtain ⟨_, _, _, -, h, -⟩ := bind_eq_some_iff.1 h
    obtain ⟨talk, hends⟩ := ih _ h
    exact ⟨_, .receive hends⟩
  | drop id next ih =>
    obtain ⟨_, _, _, -, h, -⟩ := bind_eq_some_iff.1 h
    obtain ⟨talk, hends⟩ := ih h
    exact ⟨_, .drop hends⟩

/-! ### What a caller gets -/

/-- The result of a call, from the reply to it. -/
def resultOf (reply : Except Error Message) (b : Bus H) : Except Error Message :=
  reply >>= fun reply => (reply.withSerial b.nextSerial.1).intoResult

theorem finishCall_apply (reply : Except Error Message) (b : Bus H) :
    ∃ tail, (tail = [] ∨ tail = [.number]) ∧
      finishCall reply b = (tail, some (resultOf reply b)) := by
  cases reply with
  | error e => exact ⟨[], .inl rfl, rfl⟩
  | ok reply => exact ⟨[.number], .inr rfl, rfl⟩

/-! ### Calls and the ledger -/

variable [InterfaceHandler H]

variable {m : Message} {path : ObjectPath} {object object' : Object H} {b : Bus H} {depth : Nat}
variable {inner : List (Step H)} {reply : Except Error Message}

/-- Wherever it begins, a part of a run makes orderly steps, and when it ends the calls in progress
are those that were in progress before. -/
def Nests (x : Recorded H α) : Prop :=
  ∀ b l, Accords b l → l.Orderly (x b).1 ∧ ∀ a, (x b).2 = some a → l.Keeps (l.after (x b).1)

theorem nests_pure (a : α) : (pure a : Recorded H α).Nests :=
  fun _ l _ => ⟨trivial, fun _ _ => .refl l⟩

theorem nests_step {s : Step H} {answer : Bus H → α} (hs : s.Aside) : (step s answer).Nests := by
  intro b l h
  obtain ⟨hfits, hkeeps⟩ := h.sound.keeps_next hs
  exact ⟨⟨hfits, trivial⟩, fun _ _ => hkeeps⟩

theorem Nests.bind {x : Recorded H α} {f : α → Recorded H β} (hx : x.Nests)
    (hf : ∀ a, (f a).Nests) : (x >>= f).Nests := by
  intro b l h
  obtain ⟨horderly, hkeeps⟩ := hx b l h
  rcases happly : x b with ⟨steps, none | a⟩
  · rw [bind_apply_none happly]
    rw [happly] at horderly
    exact ⟨horderly, by simp⟩
  · rw [bind_apply_some happly]
    rw [happly] at horderly hkeeps
    obtain ⟨horderly', hkeeps'⟩ := hf a _ _ (h.after horderly)
    refine ⟨Ledger.orderly_append.2 ⟨horderly, horderly'⟩, fun c hc => ?_⟩
    rw [Ledger.after_append]
    exact (hkeeps a rfl).trans (hkeeps' c hc)

theorem nests_ofSession {serve : Message → Recorded H (Except Error Message)}
    (hserve : ∀ m, (serve m).Nests) (s : Session H α) : (ofSession serve s).Nests := by
  induction s with
  | done result => exact nests_pure result
  | call m next ih => exact (hserve m).bind ih
  | register _ next ih | unregister _ next ih | subscribe _ next ih | receive _ next ih =>
    rw [ofSession]
    exact .bind (nests_step trivial) fun answer => ih answer
  | emit _ next ih | drop _ next ih =>
    rw [ofSession]
    exact .bind (nests_step trivial) fun _ => ih

variable {l : Ledger H}

/-- The numbering of a reply is no matter of the ledger. -/
theorem orderly_tail {tail : List (Step H)} (htail : tail = [] ∨ tail = [.number]) :
    l.Orderly tail ∧ l.after tail = l := by
  obtain rfl | rfl := htail
  · exact ⟨trivial, rfl⟩
  · exact ⟨⟨trivial, trivial⟩, rfl⟩

/-- What is in its place on the bus is at that path. -/
theorem path_of_idle (h : Accords b l) (hplace : b.placeOf path = some (.idle object)) :
    object.path = path := by
  obtain ⟨n, hn, -, hstate⟩ := Ledger.place_eq_idle_iff.1 ((h.places path).symm.trans hplace)
  obtain ⟨_, _, hstates, hpath⟩ := h.sound.exists_state hn
  rw [hstates] at hstate
  obtain rfl := Option.some.inj hstate
  exact hpath

/-- What an object does while it serves a call is orderly once it has been lent. -/
theorem nests_service (hcall : ∀ m, (call (H := H) depth m).Nests) (h : Accords b l) (m : Message)
    (hidle : l.place path = some (.idle object)) :
    (l.next (.lend path)).Orderly (service depth m path object b).1 ∧
      ∀ r, (service depth m path object b).2 = some r →
        (l.next (.lend path)).Keeps
          ((l.next (.lend path)).after (service depth m path object b).1) := by
  have hnumber : Accords (b.next .number) l := h.next (s := .number) trivial
  have hlent := hnumber.next (s := .lend path) ⟨object, hidle⟩
  exact nests_ofSession hcall (object.handle (m.withSerial b.nextSerial.1)) _ _ hlent

/-- The serving of a call makes orderly steps, and when it is over the object is recorded as what it
has become. -/
theorem orderly_service (hcall : ∀ m, (call (H := H) depth m).Nests) (h : Accords b l)
    (hm : m.path? = some path) (hplace : b.placeOf path = some (.idle object))
    (hservice : service depth m path object b = (inner, some (reply, object'))) :
    l.Orderly (serviceSteps path inner object') ∧
      l.Keeps (l.after (serviceSteps path inner object')) ∧
      ∀ n, l.holder path = some n →
        (l.after (serviceSteps path inner object')).states n = object' :: l.states n := by
  have hidle : l.place path = some (.idle object) := (h.places path).symm.trans hplace
  obtain ⟨hinner, hkeeps⟩ := nests_service hcall h m hidle
  rw [hservice] at hinner hkeeps
  replace hkeeps := hkeeps (reply, object') rfl
  have hbecomes : object.Becomes object' := by
    obtain ⟨talk, hends⟩ := exists_ends_of_ofSession hservice
    have hpath : object.path = path := path_of_idle h hplace
    exact ⟨m.withSerial b.nextSerial.1, hpath ▸ hm, talk, reply, hends⟩
  obtain ⟨hfits, hback, hstates⟩ := Ledger.giveBack_lent hidle hbecomes hkeeps
  have hafter : l.after (serviceSteps path inner object')
      = ((l.next (.lend path)).after inner).next (.giveBack object') := by
    simp only [serviceSteps, Ledger.after_cons, Ledger.after_append, Ledger.after_nil,
      Ledger.next_number]
  refine ⟨?_, hafter ▸ hback, hafter ▸ hstates⟩
  rw [serviceSteps, Ledger.orderly_cons, Ledger.orderly_cons, Ledger.orderly_append]
  exact ⟨trivial, ⟨object, hidle⟩, hinner, hfits, trivial⟩

/-- A call nests, because the calls that are made while it is served do. -/
theorem nests_call (depth : Nat) (m : Message) : (call (H := H) depth m).Nests := by
  intro b l h
  rw [call_apply]
  cases hm : m.path? with
  | none => exact ⟨⟨trivial, trivial⟩, fun _ _ => .refl l⟩
  | some path =>
    cases hplace : b.placeOf path with
    | none =>
      obtain ⟨tail, htail, hfinish⟩ := finishCall_apply
        ((m.withSerial b.nextSerial.1).error (.unknownObject path.text)) (b.next .number)
      obtain ⟨horderly, hafter⟩ := orderly_tail (l := l) htail
      simp only [hplace, hfinish]
      rw [Ledger.orderly_cons, Ledger.after_cons, Ledger.next_number, hafter]
      exact ⟨⟨trivial, horderly⟩, fun _ _ => .refl l⟩
    | some place =>
      cases place with
      | serving =>
        simp only [hplace]
        exact ⟨⟨trivial, trivial⟩, by simp⟩
      | idle object =>
        cases depth with
        | zero =>
          simp only [hplace]
          exact ⟨⟨trivial, trivial⟩, by simp⟩
        | succ depth =>
          have hcall := nests_call depth
          simp only [hplace]
          rcases hservice : service depth m path object b with ⟨inner, none | ⟨reply, object'⟩⟩
          · have hidle : l.place path = some (.idle object) := (h.places path).symm.trans hplace
            have hinner := (nests_service hcall h m hidle).1
            rw [hservice] at hinner
            exact ⟨⟨trivial, ⟨object, hidle⟩, hinner⟩, by simp⟩
          · obtain ⟨horderly, hkeeps, -⟩ := orderly_service hcall h hm hplace hservice
            obtain ⟨tail, htail, hfinish⟩ :=
              finishCall_apply reply (b.after (serviceSteps path inner object'))
            obtain ⟨horderly', hafter⟩ := orderly_tail htail
            simp only [hfinish]
            rw [Ledger.orderly_append, Ledger.after_append, hafter]
            exact ⟨⟨horderly, horderly'⟩, fun _ _ => hkeeps⟩

theorem nests_run (depth : Bus H → Nat) (s : Session H α) : (run depth s).Nests := by
  refine nests_ofSession (fun m => ?_) s
  intro b l h
  exact nests_call (depth b) m b l h

/-! ### From an empty bus on -/

/-- What becomes of a call that the object with a number serves: it makes the steps `inner`,
replies, and is then `object`. -/
structure Completed (b : Bus H) (l : Ledger H) (path : ObjectPath) (n : Nat)
    (inner : List (Step H)) (reply : Except Error Message) (object : Object H)
    (outcome : List (Step H) × Option (Except Error Message)) : Prop where
  /-- The caller gets the reply, -/
  result : outcome.2 = some (resultOf reply (b.after (serviceSteps path inner object)))
  /-- nothing happens besides but the numbering of the reply, -/
  steps : ∃ tail, (tail = [] ∨ tail = [.number]) ∧
    outcome.1 = serviceSteps path inner object ++ tail
  /-- the calls in progress are those that were in progress before, -/
  chain : (l.after outcome.1).chain = l.chain
  /-- and what has become of the object is remembered. -/
  states : (l.after outcome.1).states n = object :: l.states n

/-- What is known of the objects on a bus that was empty at first, after some steps of a run. -/
structure Registered (steps : List (Step H)) (b : Bus H) (l : Ledger H) : Prop where
  /-- Who unregisters a path gets the object that holds it, unless that is serving a call. -/
  unregistered : ∀ path, (b.unregister path).1 = l.free path
  /-- Who registers an object gets the one that held its path, under the same condition. -/
  replaced : ∀ object, (b.register object).1 = l.free object.path
  /-- What holds a path has a newest state. -/
  held : ∀ path n, l.holder path = some n →
    ∃ object older, l.states n = object :: older ∧ object.path = path
  /-- Each state but the first has come from the one before it by a call. -/
  served : ∀ n, (l.states n).IsChain fun new old => old.Becomes new
  /-- What has been unregistered holds no path any more, and if it was handed out then it has not
  served a call since. -/
  gone : ∀ first path rest n, steps = first ++ .unregister path :: rest →
    (Ledger.of first).holder path = some n →
      (∀ q, l.holder q ≠ some n) ∧
        (n ∉ (Ledger.of first).chain →
          n ∉ l.chain ∧ l.states n = (Ledger.of first).states n)
  /-- Its path is held by nobody until an object is registered there. -/
  vacant : ∀ first path rest, steps = first ++ .unregister path :: rest →
    (∀ object, .register object ∈ rest → object.path ≠ path) → l.holder path = none
  /-- A call to a path that nobody holds fails, and the caller hears of an unknown object unless the
  path is too long to be told. -/
  refused : ∀ depth m path, m.path? = some path → l.holder path = none →
    ∃ e, (call depth m b).2 = some (.error e) ∧
      (path.text.toUTF8.size + 27 ≤ maxBodyLength →
        e = .remote (Fault.unknownObject path.text).name (Fault.unknownObject path.text).text)
  /-- A call to an object that is serving one already never ends. -/
  waiting : ∀ depth m path n, m.path? = some path → l.holder path = some n → n ∈ l.chain →
    (call depth m b).2 = none
  /-- Any other call is served by the object that holds the path, in its newest state. If that comes
  to an end the call is completed, whatever has been done meanwhile. -/
  completed : ∀ depth m path n object, m.path? = some path → l.holder path = some n →
    l.free path = some object → ∀ inner reply object',
      service depth m path object b = (inner, some (reply, object')) →
        Completed b l path n inner reply object' (call (depth + 1) m b)

theorem refused_of_vacant (hm : m.path? = some path) (hplace : b.placeOf path = none) :
    ∃ e, (call depth m b).2 = some (.error e) ∧
      (path.text.toUTF8.size + 27 ≤ maxBodyLength →
        e = .remote (Fault.unknownObject path.text).name (Fault.unknownObject path.text).text) := by
  rw [call_apply, hm]
  simp only [hplace]
  cases herror : (m.withSerial b.nextSerial.1).error (.unknownObject path.text) with
  | error e =>
    refine ⟨e, rfl, fun hlength => ?_⟩
    have hsendable := Fault.sendable_unknownObject_iff.2 hlength
    rw [Message.error_eq_ok_iff.2 ⟨hsendable, rfl⟩] at herror
    cases herror
  | ok reply =>
    obtain ⟨hsendable, rfl⟩ := Message.error_eq_ok_iff.1 herror
    refine ⟨_, ?_, fun _ => rfl⟩
    exact congrArg some (Message.intoResult_faultReply hsendable _)

theorem Completed.of_service (h : Accords b l) (hm : m.path? = some path) {n : Nat}
    (hn : l.holder path = some n) (hplace : b.placeOf path = some (.idle object))
    (hservice : service depth m path object b = (inner, some (reply, object'))) :
    Completed b l path n inner reply object' (call (depth + 1) m b) := by
  obtain ⟨horderly, hkeeps, hstates⟩ := orderly_service (nests_call depth) h hm hplace hservice
  have hcall : call (depth + 1) m b =
      (serviceSteps path inner object' ++
          (finishCall reply (b.after (serviceSteps path inner object'))).1,
        (finishCall reply (b.after (serviceSteps path inner object'))).2) := by
    rw [call_apply, hm]
    simp only [hplace, hservice]
  obtain ⟨tail, htail, hfinish⟩ :=
    finishCall_apply reply (b.after (serviceSteps path inner object'))
  rw [hfinish] at hcall
  rw [hcall]
  have hafter : l.after (serviceSteps path inner object' ++ tail)
      = l.after (serviceSteps path inner object') := by
    rw [Ledger.after_append, (orderly_tail htail).2]
  exact ⟨rfl, ⟨tail, htail, rfl⟩, hafter ▸ hkeeps.chain, hafter ▸ hstates n hn⟩

theorem Registered.of_orderly {steps : List (Step H)} (horderly : ({} : Ledger H).Orderly steps) :
    Registered steps (({} : Bus H).after steps) (.of steps) := by
  have h : Accords (({} : Bus H).after steps) (.of steps) := Bus.accords_empty.after horderly
  have hof : ∀ first path rest, steps = first ++ .unregister path :: rest →
      Ledger.of steps = ((Ledger.of first).next (.unregister path)).after rest := by
    rintro first path rest rfl
    exact Ledger.after_append _ _ _
  exact {
    unregistered := h.idleAt
    replaced := fun object => h.idleAt object.path
    held := fun path n hn => h.sound.exists_state hn
    served := h.sound.served
    gone := by
      intro first path rest n heq hn
      have hfirst : (Ledger.of first).Sound := by
        rw [heq, Ledger.orderly_append] at horderly
        exact (Bus.accords_empty.after horderly.1).sound
      have hretired := hfirst.retired_unregister hn
      rw [hof first path rest heq]
      exact ⟨(hretired.after rest).homeless, fun hidle => hretired.states_after hidle rest⟩
    vacant := by
      intro first path rest heq hrest
      rw [hof first path rest heq]
      exact Ledger.holder_after_eq_none (Ledger.holder_unregister.trans (if_pos rfl)) hrest
    refused := fun depth m path hm hn =>
      refused_of_vacant hm (by rw [h.places, Ledger.place, hn]; rfl)
    waiting := by
      intro depth m path n hm hn hmem
      have hplace := (h.places path).trans (Ledger.place_eq_serving_iff.2 ⟨n, hn, hmem⟩)
      rw [call_apply, hm]
      simp only [hplace]
    completed := fun depth m path n object hm hn hfree inner reply object' hservice =>
      have hplace := (h.places path).trans (Ledger.free_eq_some_iff.1 hfree)
      .of_service h hm hn hplace hservice }

/-- At every point of every run, objects are handed out, lost and called as the ledger of the steps
up to there has it; and when the run is over no call is in progress. -/
theorem run_registers (depth : Bus H → Nat) (s : Session H α) :
    (run depth s).forget = Exchange.ofSession (fun m => do Exchange.call (depth (← get)) m) s ∧
      (∀ before rest, (run depth s {}).1 = before ++ rest →
        Registered before (({} : Bus H).after before) (.of before)) ∧
      ∀ a, (run depth s {}).2 = some a → (Ledger.of (run depth s {}).1).chain = [] := by
  obtain ⟨horderly, hkeeps⟩ := nests_run depth s _ _ Bus.accords_empty
  refine ⟨forget_run depth s, fun before rest heq => ?_, fun a ha => (hkeeps a ha).chain⟩
  rw [heq, Ledger.orderly_append] at horderly
  exact .of_orderly horderly.1

/-! ### An object that loses its path in the middle of a call -/

/-- The path of an object. -/
def hallPath : ObjectPath := ⟨"/hall", by decide +kernel⟩

/-- The path of another object. -/
def doorPath : ObjectPath := ⟨"/door", by decide +kernel⟩

/-- An object that calls the other one twice and then counts. -/
def hall : Object Script :=
  ⟨hallPath, [⟨"org.example", [("Leave", [.call (.methodCall doorPath "Knock"),
    .call (.methodCall doorPath "Shut"), .count])], [], 0⟩]⟩

/-- An object that counts, or takes the first one off the bus. -/
def door : Object Script :=
  ⟨doorPath, [⟨"org.example", [("Knock", [.count]), ("Shut", [.unregister hallPath])], [], 0⟩]⟩

/-- Calls the first object twice and the second once, and takes the second off the bus. The result
is what the first call is answered with, whether the second fails, and how often the second object
has counted. -/
def leave : Session Script (Option (List UInt8) × Bool × Option (List UInt32)) :=
  .register hall fun _ =>
  .register door fun _ =>
  .call (.methodCall hallPath "Leave") fun first =>
  .call (.methodCall hallPath "Leave") fun second =>
  .call (.methodCall doorPath "Knock") fun _ =>
  .unregister doorPath fun old =>
  .done (first.toOption.map (·.body.data.toList), second.toOption.isNone,
    old.map fun object => object.handlers.map (·.counted))

/-- The steps of this run. -/
def leaving : List (Step Script) :=
  (run (·.places.length) leave {}).1

/-- After eleven steps the first object has lost its path although it is serving a call, which is
completed all the same. -/
theorem leave_registers :
    leaving = leaving.take 11 ++ leaving.drop 11 ∧
      Registered (leaving.take 11) (({} : Bus Script).after (leaving.take 11))
        (.of (leaving.take 11)) ∧
      (Ledger.of (leaving.take 11)).chain = [1, 0] ∧
      (Ledger.of (leaving.take 11)).holder hallPath = none ∧
      (run (·.places.length) leave {}).2 = some (some [1, 0, 0, 0], true, some [2]) := by
  have hsplit : leaving = leaving.take 11 ++ leaving.drop 11 := (List.take_append_drop 11 _).symm
  exact ⟨hsplit, (run_registers (·.places.length) leave).2.1 _ _ hsplit, by decide +kernel,
    by decide +kernel, by decide +kernel⟩

end Recorded

end DBus
