import DBus.Proofs.Bus.Registrations
import DBus.Proofs.Bus.Serials
import DBus.Proofs.Object.Answering

/-!
# Replies and their calls

Whoever calls an object and gets a reply can tell by its serial which call it answers, also when the
object has made calls of its own meanwhile, whose serials lie between. The serial of the call is
the first that is assigned from its making to its end, and the serial of the reply is the last.
-/

namespace DBus

open Bus (Step)

namespace Recorded

variable {H : Type}

/-! ### Results -/

/-- Only a method return is handed to a caller, and it stays as it is. -/
theorem intoResult_eq_ok_iff {made reply : Message} :
    made.intoResult = .ok reply ↔ (∃ serial, made.kind = .methodReturn serial) ∧ reply = made := by
  rw [Message.intoResult]
  cases made.kind <;> simp [eq_comm]

/-- The caller of an unknown object gets no reply. -/
theorem resultOf_error_ne_ok {m reply : Message} {fault : Fault} {b : Bus H} :
    resultOf (m.error fault) b ≠ .ok reply := by
  intro h
  obtain ⟨made, hmade, hresult⟩ := bind_eq_ok_iff.1 h
  obtain ⟨-, rfl⟩ := Message.error_eq_ok_iff.1 hmade
  obtain ⟨⟨serial, hkind⟩, -⟩ := intoResult_eq_ok_iff.1 hresult
  cases hkind

/-! ### Steps -/

/-- A run in two parts begins with the steps of the first part. -/
theorem exists_steps_bind {α β : Type} (x : Recorded H α) (f : α → Recorded H β) (b : Bus H) :
    ∃ rest, ((x >>= f) b).1 = (x b).1 ++ rest := by
  rcases hx : x b with ⟨steps, none | a⟩
  · rw [bind_apply_none hx]
    exact ⟨[], (List.append_nil _).symm⟩
  · rw [bind_apply_some hx]
    exact ⟨_, rfl⟩

/-- The serials that are assigned from the making of a call to the numbering of its reply. -/
theorem assigned_serviceSteps (b : Bus H) (path : ObjectPath) (inner : List (Step H))
    (object : Object H) :
    ∃ between, b.assigned (serviceSteps path inner object ++ [.number])
      = b.nextSerial.1 :: (between
        ++ [(b.after (serviceSteps path inner object)).nextSerial.1]) := by
  rw [Bus.assigned_append]
  exact ⟨_, rfl⟩

variable [InterfaceHandler H]

/-! ### The calls of a run -/

/-- In a run of a session from a bus a call is made, by the session itself or by an object that
serves one of its calls, however deep: the steps before it, and how deep the calls within it may
nest. -/
inductive Makes : {α : Type} → (Bus H → Nat) → Session H α → Bus H → List (Step H) → Nat →
    Message → Prop
  /-- The session makes the call. -/
  | here {α : Type} {depth : Bus H → Nat} {m : Message}
    {next : Except Error Message → Session H α} {b : Bus H} :
    Makes depth (.call m next) b [] (depth b) m
  /-- The object makes it that serves a call of the session. -/
  | inside {α : Type} {depth : Bus H → Nat} {m : Message}
    {next : Except Error Message → Session H α} {b : Bus H} {path : ObjectPath}
    {object : Object H} {below : Nat} {before : List (Step H)} {d : Nat} {inner : Message} :
    depth b = below + 1 → m.path? = some path → b.placeOf path = some (.idle object) →
    Makes (fun _ => below) (object.handle (m.withSerial b.nextSerial.1))
      ((b.next .number).next (.lend path)) before d inner →
    Makes depth (.call m next) b (.number :: .lend path :: before) d inner
  /-- It is made after a call of the session has ended. -/
  | behind {α : Type} {depth : Bus H → Nat} {m : Message}
    {next : Except Error Message → Session H α} {b : Bus H} {steps before : List (Step H)}
    {result : Except Error Message} {d : Nat} {later : Message} :
    call (depth b) m b = (steps, some result) →
    Makes depth (next result) (b.after steps) before d later →
    Makes depth (.call m next) b (steps ++ before) d later
  /-- It is made after another request of the session. -/
  | register {α : Type} {depth : Bus H → Nat} {object : Object H}
    {next : Option (Object H) → Session H α} {b : Bus H} {before d m} :
    Makes depth (next (b.register object).1) (b.next (.register object)) before d m →
    Makes depth (.register object next) b (.register object :: before) d m
  | unregister {α : Type} {depth : Bus H → Nat} {path : ObjectPath}
    {next : Option (Object H) → Session H α} {b : Bus H} {before d m} :
    Makes depth (next (b.unregister path).1) (b.next (.unregister path)) before d m →
    Makes depth (.unregister path next) b (.unregister path :: before) d m
  | emit {α : Type} {depth : Bus H → Nat} {signal : Message} {next : Session H α} {b : Bus H}
    {before d m} :
    Makes depth next (b.next (.emit signal)) before d m →
    Makes depth (.emit signal next) b (.emit signal :: before) d m
  | subscribe {α : Type} {depth : Bus H → Nat} {rule : MatchRule} {next : Nat → Session H α}
    {b : Bus H} {before d m} :
    Makes depth (next (b.subscribe rule).1) (b.next (.subscribe rule)) before d m →
    Makes depth (.subscribe rule next) b (.subscribe rule :: before) d m
  | receive {α : Type} {depth : Bus H → Nat} {id : Nat} {next : Option Message → Session H α}
    {b : Bus H} {before d m} :
    Makes depth (next (b.receive id).1) (b.next (.receive id)) before d m →
    Makes depth (.receive id next) b (.receive id :: before) d m
  | drop {α : Type} {depth : Bus H → Nat} {id : Nat} {next : Session H α} {b : Bus H}
    {before d m} :
    Makes depth next (b.next (.drop id)) before d m →
    Makes depth (.drop id next) b (.drop id :: before) d m

section

variable {α : Type} {depth : Bus H → Nat} {b : Bus H} {m : Message} {path : ObjectPath}
  {object : Object H} {below d : Nat}

theorem run_call (next : Except Error Message → Session H α) :
    run depth (.call m next) b
      = (call (depth b) m >>= fun result => run depth (next result)) b := rfl

/-- What an object does while it serves a call is a part of the call. -/
theorem exists_steps_call (below : Nat) (hm : m.path? = some path)
    (hplace : b.placeOf path = some (.idle object)) :
    ∃ rest, (call (below + 1) m b).1
      = .number :: .lend path :: ((service below m path object b).1 ++ rest) := by
  rw [call_apply, hm]
  simp only [hplace]
  rcases service below m path object b with ⟨inner, none | ⟨reply, object'⟩⟩
  · exact ⟨[], by rw [List.append_nil]⟩
  · exact ⟨.giveBack object' :: (finishCall reply (b.after (serviceSteps path inner object'))).1,
      by simp [serviceSteps]⟩

/-- The steps of a call are a part of the steps of the run. -/
theorem Makes.exists_steps {s : Session H α} {before : List (Step H)}
    (h : Makes depth s b before d m) :
    ∃ rest, (run depth s b).1 = before ++ (call d m (b.after before)).1 ++ rest := by
  induction h with
  | @here _ depth m next b =>
    obtain ⟨rest, hsteps⟩ :=
      exists_steps_bind (call (depth b) m) (fun result => run depth (next result)) b
    exact ⟨rest, hsteps⟩
  | @inside _ depth m next b path object below before d inner hdepth hm hplace _ ih =>
    obtain ⟨rest, hinner⟩ := ih
    replace hinner : (service below m path object b).1 = _ := hinner
    obtain ⟨tail, hcall⟩ := exists_steps_call below hm hplace
    obtain ⟨behind, hsteps⟩ :=
      exists_steps_bind (call (depth b) m) (fun result => run depth (next result)) b
    refine ⟨rest ++ (tail ++ behind), ?_⟩
    rw [run_call, hsteps, hdepth, hcall, hinner]
    simp only [Bus.after_cons, List.cons_append, List.append_assoc]
  | @behind _ depth m next b steps before result d later hcall _ ih =>
    obtain ⟨rest, hlater⟩ := ih
    refine ⟨rest, ?_⟩
    rw [run_call, bind_apply_some hcall]
    simp only [hlater, Bus.after_append, List.append_assoc]
  | register _ ih | unregister _ ih | subscribe _ ih | receive _ ih | emit _ ih | drop _ ih =>
    obtain ⟨rest, hlater⟩ := ih
    exact ⟨rest, congrArg (List.cons _) hlater⟩

end

/-! ### The reply to a call -/

/-- What a caller knows of a reply: from the bus on which the call is made, and the steps until it
ends. -/
structure Correlated (b : Bus H) (m : Message) (steps : List (Step H)) (reply : Message) :
    Prop where
  /-- It is a method return with the serial that the call has been given, -/
  kind : reply.kind = .methodReturn (some b.nextSerial.1)
  destination : reply.destination = m.sender
  sender : reply.sender = m.destination
  /-- made by the object that has been given the call with this serial, and numbered when the object
  has come back. -/
  served : ∃ path object talk made object' inner,
    m.path? = some path ∧ b.placeOf path = some (.idle object) ∧
      (object.handle (m.withSerial b.nextSerial.1)).Ends talk (.ok made, object') ∧
      steps = serviceSteps path inner object' ++ [.number] ∧
      reply = made.withSerial (b.after (serviceSteps path inner object')).nextSerial.1
  /-- The serial of the call is the first that is assigned, -/
  first : (b.assigned steps).head? = reply.replySerial?
  /-- and the serial of the reply is the last. -/
  last : (b.assigned steps).getLast? = reply.serial

variable {α : Type} {b : Bus H} {m reply : Message} {steps : List (Step H)} {depth : Nat}

/-- A call that gets a reply has been served by the object at its path. -/
theorem exists_service_of_call (h : call depth m b = (steps, some (.ok reply))) :
    ∃ below path object inner made object', m.path? = some path ∧
      b.placeOf path = some (.idle object) ∧
      service below m path object b = (inner, some (.ok made, object')) ∧
      steps = serviceSteps path inner object' ++ [.number] ∧
      (made.withSerial (b.after (serviceSteps path inner object')).nextSerial.1).intoResult
        = .ok reply := by
  rw [call_apply] at h
  cases hm : m.path? with
  | none => simp [hm] at h
  | some path =>
    simp only [hm] at h
    cases hplace : b.placeOf path with
    | none =>
      obtain ⟨tail, -, hfinish⟩ := finishCall_apply
        ((m.withSerial b.nextSerial.1).error (.unknownObject path.text)) (b.next .number)
      simp only [hplace, hfinish, Prod.mk.injEq, Option.some.injEq] at h
      exact absurd h.2 resultOf_error_ne_ok
    | some place =>
      cases place with
      | serving => simp [hplace] at h
      | idle object =>
        cases depth with
        | zero => simp [hplace] at h
        | succ below =>
          simp only [hplace] at h
          rcases hservice : service below m path object b with
            ⟨inner, none | ⟨e | made, object'⟩⟩
          · simp [hservice] at h
          · simp only [hservice] at h
            cases (Prod.mk.inj h).2
          · simp only [hservice] at h
            obtain ⟨hsteps, hresult⟩ := Prod.mk.inj h
            exact ⟨below, path, object, inner, made, object', rfl, hplace, hservice, hsteps.symm,
              Option.some.inj hresult⟩

/-- A caller gets the reply that is meant for it. -/
theorem Correlated.of_call (answers : AnswersCalls H)
    (h : call depth m b = (steps, some (.ok reply))) : Correlated b m steps reply := by
  obtain ⟨below, path, object, inner, made, object', hm, hplace, hservice, rfl, hresult⟩ :=
    exists_service_of_call h
  obtain ⟨talk, hends⟩ := exists_ends_of_ofSession hservice
  obtain ⟨hkind, hdestination, hsender⟩ := Object.answers_of_ends_handle answers hends
  obtain ⟨⟨serial, hreturn⟩, rfl⟩ := intoResult_eq_ok_iff.1 hresult
  obtain ⟨between, hassigned⟩ := assigned_serviceSteps b path inner object'
  have hmade : made.kind = .methodReturn (some b.nextSerial.1) := by
    rcases hkind with hkind | ⟨name, hkind⟩
    · exact hkind
    · cases hreturn.symm.trans hkind
  have hreply : (made.withSerial (b.after (serviceSteps path inner object')).nextSerial.1).kind
      = .methodReturn (some b.nextSerial.1) := hmade
  exact {
    kind := hreply
    destination := hdestination
    sender := hsender
    served := ⟨path, object, talk, made, object', inner, hm, hplace, hends, rfl, rfl⟩
    first := by
      rw [hassigned, Message.replySerial?]
      simp only [hreply, List.head?_cons]
    last := by
      rw [hassigned, ← List.cons_append, List.getLast?_concat]
      rfl }

/-- In every run, each call that is made gets the reply that is meant for it, and the serials that
are assigned are the values of the counter from where it stood. -/
theorem run_correlates (answers : AnswersCalls H) (depth : Bus H → Nat) (s : Session H α)
    (b : Bus H) :
    (run depth s).forget = Exchange.ofSession (fun m => do Exchange.call (depth (← get)) m) s ∧
      (∀ before d m steps reply, Makes depth s b before d m →
        call d m (b.after before) = (steps, some (.ok reply)) →
          (∃ rest, (run depth s b).1 = before ++ steps ++ rest) ∧
            Correlated (b.after before) m steps reply) ∧
      b.Counted (run depth s b).1 := by
  refine ⟨forget_run depth s, fun before d m steps reply hmakes hcall => ?_, b.counted _⟩
  obtain ⟨rest, hsteps⟩ := hmakes.exists_steps
  rw [hcall] at hsteps
  exact ⟨⟨rest, hsteps⟩, .of_call answers hcall⟩

/-! ### A call within a call -/

/-- A bus whose counter is about to start again. -/
def wornBus : Bus Script :=
  { lastSerial := 4294967294 }

/-- Puts two objects on the bus and calls the first, which calls the second. -/
def visit : Session Script (Except Error Message) :=
  .register hall fun _ =>
  .register door fun _ =>
  .call { Message.methodCall hallPath "Leave" with sender := some ":1.7" } .done

/-- The steps before the first object makes a call. -/
def visitSteps : List (Step Script) :=
  [.register hall, .register door, .number, .lend hallPath]

/-- The call that it makes. -/
def knock : Message := .methodCall doorPath "Knock"

/-- The steps of this call. -/
def knockSteps : List (Step Script) :=
  (call 1 knock (wornBus.after visitSteps)).1

/-- The reply to it. -/
def knocked : Message :=
  ((knock.withSerial (.after 0)).methodReturn.withBody .uint32
    ⟨.native, ⟨#[1, 0, 0, 0]⟩⟩).withSerial (.after 1)

/-- The call within the call gets the serial behind the largest one, which is one. -/
theorem knock_correlates :
    AnswersCalls Script ∧ Makes (·.places.length) visit wornBus visitSteps 1 knock ∧
      call 1 knock (wornBus.after visitSteps) = (knockSteps, some (.ok knocked)) ∧
      Correlated (wornBus.after visitSteps) knock knockSteps knocked ∧
      (wornBus.assigned (run (·.places.length) visit wornBus).1).map (·.number)
        = [4294967295, 1, 2, 3, 4, 5] := by
  have hmakes : Makes (·.places.length) visit wornBus visitSteps 1 knock := by
    refine .register (.register (.inside ?_ rfl rfl .here))
    rfl
  have hreply : (call 1 knock (wornBus.after visitSteps)).2 = some (.ok knocked) := by
    decide +kernel
  have hcall : call 1 knock (wornBus.after visitSteps) = (knockSteps, some (.ok knocked)) :=
    Prod.ext rfl hreply
  have hcorrelated := ((run_correlates Script.answersCalls (·.places.length) visit wornBus).2.1
    visitSteps 1 knock knockSteps knocked hmakes hcall).2
  exact ⟨Script.answersCalls, hmakes, hcall, hcorrelated, by decide +kernel⟩

end Recorded

end DBus
