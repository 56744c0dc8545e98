import DBus.Bus

/-!
# Runs

A run of a session changes the bus step by step. Most requests are one step; the serving of a call
is several, and between them come those of the handlers. `Recorded` makes the requests of a session
as `Exchange` does and writes down the steps, also those of a run that never ends. What holds after
every list of steps then holds at every point of every run, in the middle of a call as well.
-/

namespace DBus

namespace Bus

variable {H : Type}

/-- A change of a bus that is made at once. -/
inductive Step (H : Type) where
  /-- A call or a reply is numbered. -/
  | number
  /-- An object is put on the bus. -/
  | register (object : Object H)
  /-- An object is taken off the bus. -/
  | unregister (path : ObjectPath)
  /-- The object at a path begins to serve a call. -/
  | lend (path : ObjectPath)
  /-- An object has served a call. -/
  | giveBack (object : Object H)
  /-- A signal is sent. -/
  | emit (signal : Message)
  /-- A subscription is opened. -/
  | subscribe (rule : MatchRule)
  /-- The oldest signal that waits in a subscription is taken. -/
  | receive (subscription : Nat)
  /-- A subscription is given up. -/
  | drop (subscription : Nat)

/-- The bus after a step. -/
def next (b : Bus H) : Step H → Bus H
  | .number => b.nextSerial.2
  | .register object => (b.register object).2
  | .unregister path => (b.unregister path).2
  | .lend path => b.occupy path .serving
  | .giveBack object => b.giveBack object
  | .emit m => b.emit m
  | .subscribe rule => (b.subscribe rule).2
  | .receive id => (b.receive id).2
  | .drop id => b.drop id

/-- The bus after some steps. -/
def after (b : Bus H) (steps : List (Step H)) : Bus H :=
  steps.foldl next b

@[simp] theorem after_nil (b : Bus H) : b.after [] = b := rfl

@[simp] theorem after_cons (b : Bus H) (s : Step H) (steps : List (Step H)) :
    b.after (s :: steps) = (b.next s).after steps := rfl

@[simp] theorem after_append (b : Bus H) (first second : List (Step H)) :
    b.after (first ++ second) = (b.after first).after second :=
  List.foldl_append

end Bus

open Bus (Step)

/-- What happens on a bus, step by step, and the result; no result if it never ends. -/
def Recorded (H : Type) (α : Type) := Bus H → List (Step H) × Option α

namespace Recorded

variable {H : Type} {α β : Type}

instance : Monad (Recorded H) where
  pure a := fun _ => ([], some a)
  bind x f := fun b =>
    match x b with
    | (steps, none) => (steps, none)
    | (steps, some a) =>
      let (more, result) := f a (b.after steps)
      (steps ++ more, result)

/-- Makes a step, which has an answer. -/
def step (s : Step H) (answer : Bus H → α) : Recorded H α :=
  fun b => ([s], some (answer b))

/-- Looks at the bus. -/
def look : Recorded H (Bus H) :=
  fun b => ([], some b)

/-- What never ends. -/
def stuck : Recorded H α :=
  fun _ => ([], none)

/-- Makes the requests of a session, its calls being served by `serve`. -/
def ofSession (serve : Message → Recorded H (Except Error Message)) : Session H α → Recorded H α
  | .done result => pure result
  | .register object next => do
    ofSession serve (next (← step (.register object) fun b => (b.register object).1))
  | .unregister path next => do
    ofSession serve (next (← step (.unregister path) fun b => (b.unregister path).1))
  | .emit m next => do
    step (.emit m) fun _ => ()
    ofSession serve next
  | .call m next => do ofSession serve (next (← serve m))
  | .subscribe rule next => do
    ofSession serve (next (← step (.subscribe rule) fun b => (b.subscribe rule).1))
  | .receive id next => do
    ofSession serve (next (← step (.receive id) fun b => (b.receive id).1))
  | .drop id next => do
    step (.drop id) fun _ => ()
    ofSession serve next

/-- Numbers the reply to a call and takes its result. -/
def finishCall : Except Error Message → Recorded H (Except Error Message)
  | .error e => return .error e
  | .ok reply => do
    let serial ← step .number fun b => b.nextSerial.1
    return (reply.withSerial serial).intoResult

/-! ### Runs in parts -/

section

variable {b : Bus H} {steps : List (Step H)} {a : α} {c : β}
variable {x : Recorded H α} {f : α → Recorded H β}

theorem bind_apply_some (h : x b = (steps, some a)) :
    (x >>= f) b = (steps ++ (f a (b.after steps)).1, (f a (b.after steps)).2) := by
  simp only [bind, h]

theorem bind_apply_none (h : x b = (steps, none)) : (x >>= f) b = (steps, none) := by
  simp only [bind, h]

theorem step_bind_apply (s : Step H) (answer : Bus H → α) :
    (step s answer >>= f) b
      = (s :: (f (answer b) (b.next s)).1, (f (answer b) (b.next s)).2) := rfl

theorem look_bind_apply (f : Bus H → Recorded H β) : (look >>= f) b = f b b := rfl

/-- A run in two parts ends where the second part ends, which begins where the first one does. -/
theorem bind_eq_some_iff :
    (x >>= f) b = (steps, some c) ↔
      ∃ first a rest, x b = (first, some a) ∧ f a (b.after first) = (rest, some c) ∧
        steps = first ++ rest := by
  rcases hx : x b with ⟨first, none | a⟩
  · simp [bind_apply_none hx]
  · rw [bind_apply_some hx]
    rcases hf : f a (b.after first) with ⟨rest, result⟩
    constructor
    · rintro ⟨⟩
      exact ⟨first, a, rest, rfl, hf, rfl⟩
    · rintro ⟨_, _, rest', ⟨⟩, hrest, rfl⟩
      obtain ⟨⟩ := hf.symm.trans hrest
      rfl

end

/-! ### Without the record -/

/-- What happens on a bus, without the record of it. -/
def forget (x : Recorded H α) : Exchange H α :=
  fun b => (x b).2.map fun a => (a, b.after (x b).1)

@[simp] theorem forget_pure (a : α) : (pure a : Recorded H α).forget = pure a := rfl

@[simp] theorem forget_look : (look : Recorded H (Bus H)).forget = get := rfl

@[simp] theorem forget_bind (x : Recorded H α) (f : α → Recorded H β) :
    (x >>= f).forget = x.forget >>= fun a => (f a).forget := by
  funext b
  show ((x >>= f) b).2.map (fun a => (a, b.after ((x >>= f) b).1))
    = ((x b).2.map fun a => (a, b.after (x b).1)).bind fun p => (f p.1).forget p.2
  simp only [bind]
  obtain ⟨steps, result⟩ := x b
  cases result with
  | none => rfl
  | some a => simp [forget]

@[simp] theorem forget_step (s : Step H) (answer : Bus H → α) :
    (step s answer).forget = Exchange.step fun b => (answer b, b.next s) := rfl

theorem forget_ofSession {serve : Message → Recorded H (Except Error Message)}
    {serve' : Message → Exchange H (Except Error Message)} (h : ∀ m, (serve m).forget = serve' m)
    (s : Session H α) : (ofSession serve s).forget = Exchange.ofSession serve' s := by
  induction s with
  | done result => rfl
  | call m next ih => simp only [ofSession, Exchange.ofSession, forget_bind, h, ih]
  | register _ next ih | unregister _ next ih | subscribe _ next ih | receive _ next ih =>
    simp only [ofSession, forget_bind, forget_step, ih]
    rfl
  | emit _ next ih | drop _ next ih =>
    simp only [ofSession, forget_bind, forget_step, ih]
    rfl

theorem forget_finishCall (reply : Except Error Message) :
    (finishCall (H := H) reply).forget = Exchange.finishCall reply := by
  cases reply with
  | error e => rfl
  | ok reply =>
    simp only [finishCall, forget_bind, forget_step, forget_pure]
    rfl

/-! ### Calls -/

variable [InterfaceHandler H]

/-- Serves a call. -/
def call (depth : Nat) (m : Message) : Recorded H (Except Error Message) := do
  let m := m.withSerial (← step .number fun b => b.nextSerial.1)
  match m.path? with
  | none => return .error .unexpectedReply
  | some path =>
    match (← look).placeOf path with
    | none => finishCall (m.error (.unknownObject path.text))
    | some .serving => stuck
    | some (.idle object) =>
      match depth with
      | 0 => stuck
      | depth + 1 =>
        step (.lend path) fun _ => ()
        let (reply, object) ← ofSession (call depth) (object.handle m)
        step (.giveBack object) fun _ => ()
        finishCall reply

/-- Makes the requests of a session. How deep the calls may nest may depend on the bus. -/
def run (depth : Bus H → Nat) (s : Session H α) : Recorded H α :=
  ofSession (fun m => do call (depth (← look)) m) s

theorem forget_call (depth : Nat) (m : Message) :
    (call (H := H) depth m).forget = Exchange.call depth m := by
  unfold call Exchange.call
  simp only [forget_bind, forget_step]
  refine bind_congr fun serial => ?_
  cases (m.withSerial serial).path? with
  | none => rfl
  | some path =>
    simp only [forget_bind, forget_look]
    refine bind_congr fun b => ?_
    cases b.placeOf path with
    | none => exact forget_finishCall _
    | some place =>
      cases place with
      | serving => rfl
      | idle object =>
        cases depth with
        | zero => rfl
        | succ depth =>
          simp only [forget_bind, forget_step, forget_ofSession (forget_call depth),
            forget_finishCall]
          rfl

/-- The record leaves the run as it is. -/
theorem forget_run (depth : Bus H → Nat) (s : Session H α) :
    (run depth s).forget
      = Exchange.ofSession (fun m => do Exchange.call (depth (← get)) m) s := by
  refine forget_ofSession (fun m => ?_) s
  simp only [forget_bind, forget_look, forget_call]

/-! ### How calls go -/

/-- What an object does while it serves a call to its path, from the bus on which it is called. -/
def service (depth : Nat) (m : Message) (path : ObjectPath) (object : Object H) (b : Bus H) :
    List (Step H) × Option (Except Error Message × Object H) :=
  ofSession (call depth) (object.handle (m.withSerial b.nextSerial.1))
    ((b.next .number).next (.lend path))

theorem forget_service (depth : Nat) (m : Message) (path : ObjectPath) (object : Object H)
    (b : Bus H) :
    Exchange.ofSession (Exchange.call depth) (object.handle (m.withSerial b.nextSerial.1))
        (b.nextSerial.2.occupy path .serving)
      = (service depth m path object b).2.map fun served =>
          (served, b.after (.number :: .lend path :: (service depth m path object b).1)) :=
  (congrFun (forget_ofSession (forget_call depth) _) _).symm

/-- The steps from the making of a call to the return of the object that has served it. -/
def serviceSteps (path : ObjectPath) (inner : List (Step H)) (object : Object H) : List (Step H) :=
  .number :: .lend path :: (inner ++ [.giveBack object])

/-- How a call goes, from the bus on which it is made. -/
theorem call_apply (depth : Nat) (m : Message) (b : Bus H) :
    call depth m b =
      match m.path? with
      | none => ([.number], some (.error .unexpectedReply))
      | some path =>
        match b.placeOf path, depth with
        | none, _ =>
          let r := finishCall ((m.withSerial b.nextSerial.1).error (.unknownObject path.text))
            (b.next .number)
          (.number :: r.1, r.2)
        | some .serving, _ | some (.idle _), 0 => ([.number], none)
        | some (.idle object), depth + 1 =>
          match service depth m path object b with
          | (inner, none) => (.number :: .lend path :: inner, none)
          | (inner, some (reply, object')) =>
            let r := finishCall reply (b.after (serviceSteps path inner object'))
            (serviceSteps path inner object' ++ r.1, r.2) := by
  have hpath : (m.withSerial b.nextSerial.1).path? = m.path? := rfl
  have hplace : ∀ path, (b.next .number).placeOf path = b.placeOf path := fun _ => rfl
  unfold call
  simp only [step_bind_apply, hpath]
  cases m.path? with
  | none => rfl
  | some path =>
    simp only [look_bind_apply, hplace]
    cases b.placeOf path with
    | none => rfl
    | some place =>
      cases place with
      | serving => rfl
      | idle object =>
        cases depth with
        | zero => rfl
        | succ depth =>
          simp only [step_bind_apply]
          rcases hservice : service depth m path object b with ⟨inner, none | ⟨reply, object'⟩⟩
          · rw [service] at hservice
            rw [bind_apply_none hservice]
          · rw [service] at hservice
            rw [bind_apply_some hservice]
            simp [serviceSteps, step_bind_apply]

end Recorded

end DBus
