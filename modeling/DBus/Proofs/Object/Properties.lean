import DBus.Object
import DBus.Proofs.Object.Conversation
import DBus.Proofs.Object.Faults
import DBus.Proofs.Steps

/-!
# Calls of the properties interface

What an object does with such a call, taken apart into three questions: whether the arguments can be
read, which handler they are for, and what that handler makes of them. Only the last takes a
conversation, and only the setting of a property changes a handler.
-/

namespace DBus

namespace Message

/-- A call of a member of the properties interface. -/
structure Asks (m : Message) (member : String) : Prop where
  interface : m.interface = some propertiesInterface
  member : m.member? = some member

/-- A call that sets a property of an interface to a value. -/
structure Assigns (m : Message) (interface name : String) (value : Value) : Prop where
  asks : m.Asks "Set"
  signature : m.signature.text = "ssv"
  read : m.reader.run Object.readAssignment = .ok (interface, name, value)

/-- A call that gets a property of an interface. -/
structure AsksFor (m : Message) (interface name : String) : Prop where
  asks : m.Asks "Get"
  signature : m.signature.text = "ss"
  read : m.reader.run Object.readNames = .ok (interface, name)

/-- A call has been answered with a method return. -/
def Succeeded : Except Error Message → Prop
  | .ok reply => ∃ serial, reply.kind = .methodReturn serial
  | .error _ => False

theorem succeeded_methodReturn (m : Message) : Succeeded (.ok m.methodReturn) :=
  ⟨m.serial, rfl⟩

/-- A fault is no method return. -/
theorem Reported.not_succeeded {m : Message} {fault : Fault} {result : Except Error Message}
    (h : m.Reported fault result) : ¬Succeeded result := by
  cases result with
  | error e => exact id
  | ok reply =>
    obtain ⟨-, rfl⟩ := h.sendable reply rfl
    rintro ⟨serial, ⟨⟩⟩

end Message

open Message (Succeeded)

namespace Object

open InterfaceHandler (interface getProperty setProperty)

/-! ### Steps that may end in a fault -/

section

variable {H : Type} {α β : Type}

theorem run_liftM_bind (x : Except Fault α) (f : α → ExceptT Fault (Session H) β) :
    (liftM x >>= f).run =
      match x with
      | .ok a => (f a).run
      | .error fault => pure (.error fault) := by
  cases x <;> rfl

theorem run_mk_bind (x : Session H (Except Fault α)) (f : α → ExceptT Fault (Session H) β) :
    (ExceptT.mk x >>= f).run = x >>= fun outcome =>
      match outcome with
      | .ok a => (f a).run
      | .error fault => pure (.error fault) := by
  show x >>= _ = x >>= _
  refine bind_congr fun outcome => ?_
  cases outcome <;> rfl

end

/-! ### Arguments -/

section

variable {m : Message} {α : Type}

/-- The arguments of a call, whose body must have a signature. -/
def argumentsRead (m : Message) (signature : String) (read : Read α) : Except Fault α := do
  orFault ((← argumentsOf m signature).run read)

theorem argumentsOf_eq (m : Message) (signature : String) :
    argumentsOf m signature =
      if m.signature.text = signature then .ok m.reader
      else
        .error (.invalidArgs (Error.unexpectedSignature signature m.signature.text).message) := by
  rw [argumentsOf, Message.bodyOf]
  by_cases hsig : m.signature.text = signature
  · rw [if_pos hsig, if_pos hsig]
  · rw [if_neg hsig, if_neg hsig]

theorem argumentsRead_eq_ok_iff {signature : String} {read : Read α} {a : α} :
    argumentsRead m signature read = .ok a ↔
      m.signature.text = signature ∧ m.reader.run read = .ok a := by
  rw [argumentsRead, argumentsOf_eq]
  by_cases hsig : m.signature.text = signature
  · rw [if_pos hsig, ok_bind]
    cases m.reader.run read <;> simp [orFault, hsig]
  · rw [if_neg hsig]
    simp [hsig]

theorem assignmentOf_eq_ok_iff (hasks : m.Asks "Set") {i name : String} {value : Value} :
    assignmentOf m = .ok (i, name, value) ↔ m.Assigns i name value :=
  (argumentsRead_eq_ok_iff (m := m)).trans
    ⟨fun ⟨hsig, hread⟩ => ⟨hasks, hsig, hread⟩, fun h => ⟨h.signature, h.read⟩⟩

end

variable {H : Type} [InterfaceHandler H] {o o' : Object H} {m : Message}

/-! ### Handlers by the names of their interfaces -/

/-- The first handler of an interface, and the handlers before and behind it. -/
structure FirstOf (name : String) (handlers front : List H) (h : H) (behind : List H) : Prop where
  split : handlers = front ++ h :: behind
  before : ∀ x ∈ front, interface x ≠ name
  named : interface h = name

theorem find_eq_ok_iff {name : String} {h : H} :
    o.find name = .ok h ↔ ∃ front behind, FirstOf name o.handlers front h behind := by
  have hfind : o.find name = .ok h ↔
      (o.handlers.find? fun h => interface h == name) = some h := by
    rw [find]
    cases o.handlers.find? fun h => interface h == name <;> simp
  rw [hfind, List.find?_eq_some_iff_append]
  constructor
  · rintro ⟨hname, front, behind, hsplit, hbefore⟩
    exact ⟨front, behind, hsplit, fun x hx => by simpa using hbefore x hx, by simpa using hname⟩
  · rintro ⟨front, behind, hsplit, hbefore, hname⟩
    exact ⟨by simpa using hname, front, behind, hsplit, fun x hx => by simpa using hbefore x hx⟩

theorem find_eq_error_iff {name : String} {fault : Fault} :
    o.find name = .error fault ↔
      (∀ h ∈ o.handlers, interface h ≠ name) ∧ fault = .unknownInterface name := by
  rw [find]
  cases hfind : o.handlers.find? fun h => interface h == name with
  | some h =>
    have hmem := List.mem_of_find?_eq_some hfind
    have hname := List.find?_some hfind
    simp only [reduceCtorEq, false_iff, not_and]
    exact fun hnone => absurd (by simpa using hname) (hnone h hmem)
  | none =>
    have hnone : ∀ h ∈ o.handlers, interface h ≠ name := by simpa using hfind
    exact ⟨fun h => ⟨hnone, (Except.error.inj h).symm⟩, fun h => congrArg _ h.2.symm⟩

/-- Either the first handler of an interface does something, or there is none. -/
theorem ends_updateFirst_iff {name : String} {change : H → Session H (Except Fault Unit × H)}
    {handlers handlers' : List H} {talk : List (Talk H)} {outcome : Except Fault Unit} :
    (updateFirst name change handlers).Ends talk (outcome, handlers') ↔
      ((∀ h ∈ handlers, interface h ≠ name) ∧ talk = [] ∧
        outcome = .error (.unknownInterface name) ∧ handlers' = handlers) ∨
      ∃ front h h' behind, FirstOf name handlers front h behind ∧
        (change h).Ends talk (outcome, h') ∧ handlers' = front ++ h' :: behind := by
  induction handlers generalizing talk outcome handlers' with
  | nil =>
    rw [updateFirst, Session.ends_pure_iff, Prod.mk.injEq]
    constructor
    · rintro ⟨rfl, rfl, rfl⟩
      exact .inl ⟨by simp, rfl, rfl, rfl⟩
    · rintro (⟨-, rfl, rfl, rfl⟩ | ⟨front, h, h', behind, hfirst, -⟩)
      · exact ⟨rfl, rfl, rfl⟩
      · simpa using hfirst.split
  | cons h rest ih =>
    rw [updateFirst]
    by_cases hname : interface h = name
    · rw [if_pos (by simpa using hname)]
      simp only [Session.ends_bind_iff, Session.ends_pure_iff, Prod.exists, Prod.mk.injEq]
      constructor
      · rintro ⟨outcome, h', first, _, rfl, hends, rfl, rfl, rfl⟩
        rw [List.append_nil]
        exact .inr ⟨[], h, h', rest, ⟨rfl, by simp, hname⟩, hends, rfl⟩
      · rintro (⟨hnone, -⟩ | ⟨front, g, g', behind, hfirst, hends, rfl⟩)
        · exact absurd hname (hnone h List.mem_cons_self)
        · cases front with
          | nil =>
            obtain ⟨rfl, rfl⟩ := List.cons.inj hfirst.split
            exact ⟨outcome, g', talk, [], (List.append_nil talk).symm, hends, rfl, rfl, rfl⟩
          | cons x front =>
            obtain ⟨rfl, -⟩ := List.cons.inj hfirst.split
            exact absurd hname (hfirst.before h List.mem_cons_self)
    · rw [if_neg (by simpa using hname)]
      simp only [Session.ends_bind_iff, Session.ends_pure_iff, Prod.exists, Prod.mk.injEq, ih]
      constructor
      · rintro ⟨outcome, rest', first, _, rfl, hrest, rfl, rfl, rfl⟩
        rw [List.append_nil]
        rcases hrest with ⟨hnone, rfl, rfl, rfl⟩ | ⟨front, g, g', behind, hfirst, hends, rfl⟩
        · exact .inl ⟨List.forall_mem_cons.2 ⟨hname, hnone⟩, rfl, rfl, rfl⟩
        · refine .inr ⟨h :: front, g, g', behind, ⟨?_, ?_, hfirst.named⟩, hends, rfl⟩
          · rw [hfirst.split, List.cons_append]
          · exact List.forall_mem_cons.2 ⟨hname, hfirst.before⟩
      · rintro (⟨hnone, rfl, rfl, rfl⟩ | ⟨front, g, g', behind, hfirst, hends, rfl⟩)
        · exact ⟨_, rest, [], [], rfl, .inl ⟨(List.forall_mem_cons.1 hnone).2, rfl, rfl, rfl⟩,
            rfl, rfl, rfl⟩
        · cases front with
          | nil =>
            obtain ⟨rfl, -⟩ := List.cons.inj hfirst.split
            exact absurd hfirst.named hname
          | cons x front =>
            obtain ⟨rfl, hsplit⟩ := List.cons.inj hfirst.split
            obtain ⟨-, hbefore⟩ := List.forall_mem_cons.1 hfirst.before
            exact ⟨outcome, front ++ g' :: behind, talk, [], (List.append_nil talk).symm,
              .inr ⟨front, g, g', behind, ⟨hsplit, hbefore, hfirst.named⟩, hends, rfl⟩,
              rfl, rfl, rfl⟩

/-! ### Members -/

/-- The handler that a call to get a property is for, and the property. -/
def namedProperty (o : Object H) (m : Message) : Except Fault (H × String) := do
  let (i, name) ← argumentsRead m "ss" readNames
  return (← o.find i, name)

/-- The handler that a call to get all properties is for. -/
def namedHandler (o : Object H) (m : Message) : Except Fault H := do
  o.find (← argumentsRead m "s" Read.string)

/-- The reply to a call whose body is what an action writes. -/
def replyWith (call : Message) (signature : Signature) (body : Write Unit) :
    Except Fault Message :=
  (orFault ((Writer.new .native).write body)).map (call.methodReturn.withBody signature ·)

theorem run_handleGet (o : Object H) (m : Message) :
    (o.handleGet m).run =
      match o.namedProperty m with
      | .error fault => pure (.error fault)
      | .ok (h, name) => getProperty h name >>= fun outcome =>
        pure (outcome >>= fun value => replyWith m .variant (Write.variant value)) := by
  simp only [handleGet, namedProperty, argumentsRead, run_liftM_bind, run_mk_bind]
  cases argumentsOf m "ss" with
  | error fault => rfl
  | ok r =>
    simp only [ok_bind]
    cases orFault (r.run readNames) with
    | error fault => rfl
    | ok names =>
      simp only [ok_bind]
      cases o.find names.1 with
      | error fault => rfl
      | ok h =>
        refine bind_congr fun outcome => ?_
        cases outcome with
        | error fault => rfl
        | ok value =>
          simp only [ok_bind, replyWith]
          cases orFault ((Writer.new .native).write (Write.variant value)) <;> rfl

theorem run_handleGetAll (o : Object H) (m : Message) :
    (o.handleGetAll m).run =
      match o.namedHandler m with
      | .error fault => pure (.error fault)
      | .ok h => InterfaceHandler.properties h >>= fun outcome =>
        pure (outcome >>= fun values => replyWith m .propertyMap (Write.propertyMap values)) := by
  simp only [handleGetAll, namedHandler, argumentsRead, run_liftM_bind, run_mk_bind]
  cases argumentsOf m "s" with
  | error fault => rfl
  | ok r =>
    simp only [ok_bind]
    cases orFault (r.run Read.string) with
    | error fault => rfl
    | ok i =>
      simp only [ok_bind]
      cases o.find i with
      | error fault => rfl
      | ok h =>
        refine bind_congr fun outcome => ?_
        cases outcome with
        | error fault => rfl
        | ok values =>
          simp only [ok_bind, replyWith]
          cases orFault ((Writer.new .native).write (Write.propertyMap values)) <;> rfl

theorem handleProperties_get (o : Object H) (h : m.member? = some "Get") :
    o.handleProperties m = (o.handleGet m).run >>= fun outcome => pure (outcome, o) := by
  rw [handleProperties, h]
  rfl

theorem handleProperties_set (o : Object H) (h : m.member? = some "Set") :
    o.handleProperties m = o.handleSet m := by
  rw [handleProperties, h]
  rfl

theorem handleProperties_getAll (o : Object H) (h : m.member? = some "GetAll") :
    o.handleProperties m = (o.handleGetAll m).run >>= fun outcome => pure (outcome, o) := by
  rw [handleProperties, h]
  rfl

theorem handleProperties_unknown (o : Object H)
    (h : m.member?.getD "" ∉ ["Get", "Set", "GetAll"]) :
    o.handleProperties m = pure (.error (.unknownMethod (m.member?.getD "")), o) := by
  simp only [List.mem_cons, List.not_mem_nil, or_false, not_or] at h
  rw [handleProperties]
  split
  · next hget => exact absurd hget h.1
  · next hset => exact absurd hset h.2.1
  · next hgetAll => exact absurd hgetAll h.2.2
  · rfl

/-- The member that a call names is one of three, or unknown. -/
theorem member_cases (m : Message) :
    m.member? = some "Get" ∨ m.member? = some "Set" ∨ m.member? = some "GetAll" ∨
      m.member?.getD "" ∉ ["Get", "Set", "GetAll"] := by
  cases m.member? with
  | none => exact .inr (.inr (.inr (by decide)))
  | some member =>
    simp only [Option.getD_some, Option.some.injEq, List.mem_cons, List.not_mem_nil]
    tauto

/-- What the outcome of a call of the properties interface makes of the call. -/
def answerTo (m : Message) : Except Fault Message → Except Error Message
  | .ok reply => .ok reply
  | .error fault => m.error fault

theorem ends_handle_properties_iff {talk : List (Talk H)} {answer : Except Error Message}
    (hm : m.interface = some propertiesInterface) :
    (o.handle m).Ends talk (answer, o') ↔
      ∃ outcome, (o.handleProperties m).Ends talk (outcome, o') ∧ answer = answerTo m outcome := by
  rw [handle, if_pos hm, Session.ends_bind_iff]
  constructor
  · rintro ⟨⟨outcome, _⟩, first, rest, rfl, hends, hrest⟩
    cases outcome with
    | ok reply =>
      obtain ⟨rfl, ⟨⟩⟩ := Session.ends_pure_iff.1 hrest
      exact ⟨.ok reply, by rwa [List.append_nil], rfl⟩
    | error fault =>
      obtain ⟨rfl, ⟨⟩⟩ := Session.ends_pure_iff.1 hrest
      exact ⟨.error fault, by rwa [List.append_nil], rfl⟩
  · rintro ⟨outcome, hends, rfl⟩
    refine ⟨(outcome, o'), talk, [], (List.append_nil talk).symm, hends, ?_⟩
    cases outcome <;> exact .done _

/-- A fault is reported. -/
theorem reported_answerTo (m : Message) (fault : Fault) :
    m.Reported fault (answerTo m (.error fault)) :=
  Message.reported_iff.2 rfl

/-! ### What the members do -/

/-- Only the setting of a property changes a handler. -/
theorem eq_of_ends_handleProperties {talk : List (Talk H)} {outcome : Except Fault Message}
    (hset : m.member? ≠ some "Set") (h : (o.handleProperties m).Ends talk (outcome, o')) :
    o' = o := by
  rcases member_cases m with hmember | hmember | hmember | hmember
  · rw [handleProperties_get o hmember, Session.ends_bind_iff] at h
    obtain ⟨_, _, _, -, -, hrest⟩ := h
    exact (Prod.mk.inj (Session.ends_pure_iff.1 hrest).2).2.symm
  · exact absurd hmember hset
  · rw [handleProperties_getAll o hmember, Session.ends_bind_iff] at h
    obtain ⟨_, _, _, -, -, hrest⟩ := h
    exact (Prod.mk.inj (Session.ends_pure_iff.1 hrest).2).2.symm
  · rw [handleProperties_unknown o hmember, Session.ends_pure_iff] at h
    exact (Prod.mk.inj h.2).2.symm

/-- The setting of a property that has been read from a call: the first handler of the interface
decides, and it is the only one that may change. -/
theorem ends_handleSet_iff {talk : List (Talk H)} {outcome : Except Fault Message}
    {i name : String} {value : Value} (hassigns : m.Assigns i name value) :
    (o.handleProperties m).Ends talk (outcome, o') ↔
      ((∀ h ∈ o.handlers, interface h ≠ i) ∧ talk = [] ∧ outcome = .error (.unknownInterface i) ∧
        o' = o) ∨
      ∃ front h h' behind result, FirstOf i o.handlers front h behind ∧
        (setProperty h name value).Ends talk (result, h') ∧
        outcome = result.map (fun _ => m.methodReturn) ∧
        o' = { o with handlers := front ++ h' :: behind } := by
  rw [handleProperties_set o hassigns.asks.member, handleSet,
    (assignmentOf_eq_ok_iff hassigns.asks).2 hassigns]
  simp only [Session.ends_bind_iff, Session.ends_pure_iff, Prod.exists, Prod.mk.injEq,
    ends_updateFirst_iff]
  constructor
  · rintro ⟨result, handlers', first, _, rfl, hfirst, rfl, rfl, rfl⟩
    rw [List.append_nil]
    rcases hfirst with ⟨hnone, rfl, rfl, rfl⟩ | ⟨front, h, h', behind, hfirst, hends, rfl⟩
    · exact .inl ⟨hnone, rfl, rfl, rfl⟩
    · exact .inr ⟨front, h, h', behind, result, hfirst, hends, rfl, rfl⟩
  · rintro (⟨hnone, rfl, rfl, rfl⟩ | ⟨front, h, h', behind, result, hfirst, hends, rfl, rfl⟩)
    · exact ⟨_, o'.handlers, [], [], rfl, .inl ⟨hnone, rfl, rfl, rfl⟩, rfl, rfl, rfl⟩
    · exact ⟨result, _, talk, [], (List.append_nil talk).symm,
        .inr ⟨front, h, h', behind, hfirst, hends, rfl⟩, rfl, rfl, rfl⟩

/-- A call that sets a property but whose arguments cannot be read changes nothing. -/
theorem ends_handleSet_of_error {talk : List (Talk H)} {outcome : Except Fault Message}
    {fault : Fault} (hmember : m.member? = some "Set") (hfault : assignmentOf m = .error fault) :
    (o.handleProperties m).Ends talk (outcome, o') ↔
      talk = [] ∧ outcome = .error fault ∧ o' = o := by
  rw [handleProperties_set o hmember, handleSet, hfault]
  dsimp only
  rw [Session.ends_pure_iff, Prod.mk.injEq]
  exact and_congr_right fun _ => and_congr eq_comm eq_comm

/-- The getting of a property that has been read from a call. -/
theorem ends_handleGet_iff {talk : List (Talk H)} {outcome : Except Fault Message}
    {i name : String} {h : H} (hasks : m.AsksFor i name) (hfind : o.find i = .ok h) :
    (o.handleProperties m).Ends talk (outcome, o') ↔
      o' = o ∧ ∃ value, (getProperty h name).Ends talk value ∧
        outcome = value >>= fun value => replyWith m .variant (Write.variant value) := by
  have hnamed : o.namedProperty m = .ok (h, name) := by
    rw [namedProperty, argumentsRead_eq_ok_iff.2 ⟨hasks.signature, hasks.read⟩]
    simp only [ok_bind, hfind]
    rfl
  rw [handleProperties_get o hasks.asks.member, run_handleGet, hnamed]
  simp only [Session.ends_bind_iff, Session.ends_pure_iff, Prod.mk.injEq]
  constructor
  · rintro ⟨_, first, _, rfl, ⟨value, first, _, rfl, hends, rfl, rfl⟩, rfl, rfl, rfl⟩
    rw [List.append_nil, List.append_nil]
    exact ⟨rfl, value, hends, rfl⟩
  · rintro ⟨rfl, value, hends, rfl⟩
    exact ⟨_, talk, [], (List.append_nil talk).symm,
      ⟨value, talk, [], (List.append_nil talk).symm, hends, rfl, rfl⟩, rfl, rfl, rfl⟩

/-! ### What no call changes -/

/-- An object stays at its path. -/
theorem path_of_ends_handle {talk : List (Talk H)} {reply : Except Error Message}
    (h : (o.handle m).Ends talk (reply, o')) : o'.path = o.path := by
  by_cases hm : m.interface = some propertiesInterface
  · obtain ⟨outcome, h, -⟩ := (ends_handle_properties_iff hm).1 h
    by_cases hset : m.member? = some "Set"
    · rw [handleProperties_set o hset, handleSet] at h
      split at h
      · obtain ⟨⟩ := (Session.ends_pure_iff.1 h).2
        rfl
      · obtain ⟨_, _, _, -, -, hrest⟩ := Session.ends_bind_iff.1 h
        obtain ⟨⟩ := (Session.ends_pure_iff.1 hrest).2
        rfl
    · rw [eq_of_ends_handleProperties hset h]
  · rw [handle, if_neg hm, handleMethod] at h
    obtain ⟨_, _, _, -, -, hrest⟩ := Session.ends_bind_iff.1 h
    obtain ⟨⟩ := (Session.ends_pure_iff.1 hrest).2
    rfl

end Object

end DBus
