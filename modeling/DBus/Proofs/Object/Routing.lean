import DBus.Object.Script
import DBus.Proofs.Object.Conversation
import DBus.Proofs.Object.Faults

/-!
# Routing of calls

Which handlers of an object a call reaches, and what it is answered with. The handlers are passed in
order: one that the call is not for stays as it is, one that does not know the method may have
changed, and the first that replies or fails ends the search, so that those behind it stay as they
are.
-/

namespace DBus

namespace Object

open InterfaceHandler (interface dispatch)

variable {H : Type} [InterfaceHandler H] {m : Message}

/-! ### Handlers that a call passes -/

/-- A handler before and after a call has passed it, and what the handler said meanwhile. -/
structure Pass (H : Type) where
  before : H
  talk : List (Talk H)
  after : H

/-- A handler that a call is for is asked once and does not know the method. Any other is not asked
and stays as it is. -/
def Pass.Declines (m : Message) (p : Pass H) : Prop :=
  if isFor m (interface p.before) then
    (dispatch p.before m).Ends p.talk (.ok .unknownMember, p.after)
  else p.talk = [] ∧ p.after = p.before

/-- The answer of a handler that knows the method. -/
def answerOf : Except Error Dispatch → Option (Except Error Message)
  | .ok (.reply reply) => some (.ok reply)
  | .ok .unknownMember => none
  | .error e => some (.error e)

/-- How a call goes through handlers: their states before, what they say, the answer, and their
states afterwards. -/
inductive Offered (m : Message) :
    List H → List (Talk H) → Option (Except Error Message) → List H → Prop
  /-- Everyone lets the call pass. -/
  | unanswered {passes : List (Pass H)} : (∀ p ∈ passes, p.Declines m) →
    Offered m (passes.map (·.before)) (passes.flatMap (·.talk)) none (passes.map (·.after))
  /-- The first that does not let the call pass answers it. -/
  | answered {passes : List (Pass H)} {h h' : H} {own : List (Talk H)}
    {outcome : Except Error Dispatch} {answer : Except Error Message} {behind : List H} :
    (∀ p ∈ passes, p.Declines m) → isFor m (interface h) = true →
    (dispatch h m).Ends own (outcome, h') → answerOf outcome = some answer →
    Offered m (passes.map (·.before) ++ h :: behind) (passes.flatMap (·.talk) ++ own) (some answer)
      (passes.map (·.after) ++ h' :: behind)

namespace Offered

variable {handlers handlers' : List H} {talk : List (Talk H)}
  {answer : Option (Except Error Message)}

theorem nil_iff : Offered m ([] : List H) talk answer handlers' ↔
    talk = [] ∧ answer = none ∧ handlers' = [] := by
  constructor
  · intro h
    generalize hnil : ([] : List H) = handlers at h
    cases h with
    | unanswered hpasses =>
      obtain rfl := List.map_eq_nil_iff.1 hnil.symm
      exact ⟨rfl, rfl, rfl⟩
    | answered => simp at hnil
  · rintro ⟨rfl, rfl, rfl⟩
    exact @Offered.unanswered _ _ m [] (by simp)

/-- One more handler in front that lets the call pass. -/
theorem cons {p : Pass H} (hp : p.Declines m) (h : Offered m handlers talk answer handlers') :
    Offered m (p.before :: handlers) (p.talk ++ talk) answer (p.after :: handlers') := by
  cases h with
  | @unanswered passes hpasses =>
    exact @unanswered _ _ m (p :: passes) (List.forall_mem_cons.2 ⟨hp, hpasses⟩)
  | @answered passes _ _ _ _ _ behind hpasses hfor hends hanswer =>
    rw [← List.append_assoc]
    exact @answered _ _ m (p :: passes) _ _ _ _ _ behind (List.forall_mem_cons.2 ⟨hp, hpasses⟩)
      hfor hends hanswer

/-- The first handler answers, or it lets the call pass to the others. -/
theorem cons_iff {h : H} :
    Offered m (h :: handlers) talk answer handlers' ↔
      (∃ outcome h', isFor m (interface h) = true ∧ (dispatch h m).Ends talk (outcome, h') ∧
        answer.isSome = true ∧ answerOf outcome = answer ∧ handlers' = h' :: handlers) ∨
      ∃ own h' rest handlers₁, talk = own ++ rest ∧ (⟨h, own, h'⟩ : Pass H).Declines m ∧
        Offered m handlers rest answer handlers₁ ∧ handlers' = h' :: handlers₁ := by
  constructor
  · intro hoffered
    generalize hcons : h :: handlers = all at hoffered
    cases hoffered with
    | @unanswered passes hpasses =>
      cases passes with
      | nil => simp at hcons
      | cons p passes =>
        obtain ⟨rfl, rfl⟩ := List.cons.inj hcons
        obtain ⟨hp, hpasses⟩ := List.forall_mem_cons.1 hpasses
        exact .inr ⟨_, _, _, _, rfl, hp, .unanswered hpasses, rfl⟩
    | @answered passes _ h' own outcome answer behind hpasses hfor hends hanswer =>
      cases passes with
      | nil =>
        obtain ⟨rfl, rfl⟩ := List.cons.inj hcons
        exact .inl ⟨outcome, h', hfor, hends, rfl, hanswer, rfl⟩
      | cons p passes =>
        obtain ⟨rfl, rfl⟩ := List.cons.inj hcons
        obtain ⟨hp, hpasses⟩ := List.forall_mem_cons.1 hpasses
        exact .inr ⟨_, _, _, _, List.append_assoc .., hp, .answered hpasses hfor hends hanswer, rfl⟩
  · rintro (⟨outcome, h', hfor, hends, hsome, rfl, rfl⟩ | ⟨own, h', rest, _, rfl, hp, hrest, rfl⟩)
    · obtain ⟨answer, hanswer⟩ := Option.isSome_iff_exists.1 hsome
      rw [hanswer]
      exact @answered _ _ m [] _ _ _ _ _ _ (by simp) hfor hends hanswer
    · exact hrest.cons hp

end Offered

/-! ### The search -/

section

variable {h h' : H} {own : List (Talk H)}

theorem Pass.declines_iff_of_for (hfor : isFor m (interface h) = true) :
    (⟨h, own, h'⟩ : Pass H).Declines m ↔ (dispatch h m).Ends own (.ok .unknownMember, h') :=
  iff_of_eq (if_pos hfor)

theorem Pass.declines_iff_of_not_for (hfor : ¬isFor m (interface h) = true) :
    (⟨h, own, h'⟩ : Pass H).Declines m ↔ own = [] ∧ h' = h :=
  iff_of_eq (if_neg hfor)

end

/-- The search for a handler that answers goes through the handlers in order. -/
theorem ends_offer_iff {handlers handlers' : List H} {talk : List (Talk H)}
    {answer : Option (Except Error Message)} :
    (offer m handlers).Ends talk (answer, handlers') ↔
      Offered m handlers talk answer handlers' := by
  induction handlers generalizing talk answer handlers' with
  | nil =>
    rw [offer, Session.ends_pure_iff, Offered.nil_iff, Prod.mk.injEq]
    exact and_congr_right fun _ => and_congr eq_comm eq_comm
  | cons h rest ih =>
    have hpass : ∀ {h₁ : H} {t : List (Talk H)},
        (offer m rest >>= fun p => pure (p.1, h₁ :: p.2)).Ends t (answer, handlers') ↔
          ∃ handlers₁, Offered m rest t answer handlers₁ ∧ handlers' = h₁ :: handlers₁ := by
      intro h₁ t
      simp only [Session.ends_bind_iff, Session.ends_pure_iff, Prod.mk.injEq, Prod.exists, ih]
      constructor
      · rintro ⟨_, handlers₁, first, _, rfl, hrest, rfl, rfl, rfl⟩
        exact ⟨handlers₁, by rwa [List.append_nil], rfl⟩
      · rintro ⟨handlers₁, hrest, rfl⟩
        exact ⟨answer, handlers₁, t, [], (List.append_nil t).symm, hrest, rfl, rfl, rfl⟩
    rw [offer, Offered.cons_iff]
    by_cases hfor : isFor m (interface h) = true
    · simp only [if_pos hfor, Session.ends_bind_iff, Prod.exists, Pass.declines_iff_of_for hfor]
      constructor
      · rintro ⟨outcome, h', first, last, rfl, hends, hlast⟩
        rcases outcome with e | reply | -
        · obtain ⟨rfl, heq⟩ := Session.ends_pure_iff.1 hlast
          obtain ⟨rfl, rfl⟩ := Prod.mk.inj heq
          rw [List.append_nil]
          exact .inl ⟨_, h', hfor, hends, rfl, rfl, rfl⟩
        · obtain ⟨rfl, heq⟩ := Session.ends_pure_iff.1 hlast
          obtain ⟨rfl, rfl⟩ := Prod.mk.inj heq
          rw [List.append_nil]
          exact .inl ⟨_, h', hfor, hends, rfl, rfl, rfl⟩
        · obtain ⟨handlers₁, hrest, rfl⟩ := hpass.1 hlast
          exact .inr ⟨first, h', last, handlers₁, rfl, hends, hrest, rfl⟩
      · rintro (⟨outcome, h', -, hends, hsome, rfl, rfl⟩ |
          ⟨own, h', last, handlers₁, rfl, hends, hrest, rfl⟩)
        · refine ⟨outcome, h', talk, [], (List.append_nil talk).symm, hends, ?_⟩
          rcases outcome with e | reply | -
          · exact .done _
          · exact .done _
          · cases hsome
        · exact ⟨_, h', own, last, rfl, hends, hpass.2 ⟨handlers₁, hrest, rfl⟩⟩
    · rw [if_neg hfor]
      simp only [Pass.declines_iff_of_not_for hfor]
      refine hpass.trans ⟨?_, ?_⟩
      · rintro ⟨handlers₁, hrest, rfl⟩
        exact .inr ⟨[], h, talk, handlers₁, rfl, ⟨rfl, rfl⟩, hrest, rfl⟩
      · rintro (⟨_, _, hfor', -⟩ | ⟨_, _, last, handlers₁, rfl, ⟨rfl, rfl⟩, hrest, rfl⟩)
        · exact absurd hfor' hfor
        · exact ⟨handlers₁, hrest, rfl⟩

/-! ### The answer -/

/-- What the answer of the handlers makes of a call. -/
inductive Answered (m : Message) (handlers : List H) :
    Option (Except Error Message) → Except Error Message → Prop
  /-- A reply is passed on. -/
  | replied (reply : Message) : Answered m handlers (some (.ok reply)) (.ok reply)
  /-- A failure is reported. -/
  | failed {e : Error} {result : Except Error Message} :
    m.Reported (.ofError e) result → Answered m handlers (some (.error e)) result
  /-- Nobody has the interface that the call names. -/
  | unknownInterface {name : String} {result : Except Error Message} :
    m.interface = some name → (∀ h ∈ handlers, interface h ≠ name) →
    m.Reported (.unknownInterface name) result → Answered m handlers none result
  /-- Nobody knows the method. -/
  | unknownMethod {result : Except Error Message} :
    (∀ name, m.interface = some name → ∃ h ∈ handlers, interface h = name) →
    m.Reported (.unknownMethod (m.member?.getD "")) result → Answered m handlers none result

theorem answered_none_iff {o : Object H} {result : Except Error Message} :
    Answered m o.handlers none result ↔ result = m.error (unanswered m o.interfaces) := by
  have hmem : ∀ name, o.interfaces.contains name = true ↔ ∃ h ∈ o.handlers, interface h = name := by
    intro name
    rw [List.contains_iff_mem, interfaces, List.mem_map]
  constructor
  · rintro (_ | _ | ⟨hname, hnone, hreported⟩ | ⟨hknown, hreported⟩)
    · rw [hreported.eq_error, unanswered, hname]
      dsimp only
      rw [if_neg]
      rintro hcontains
      obtain ⟨h, hh, heq⟩ := (hmem _).1 hcontains
      exact hnone h hh heq
    · rw [hreported.eq_error, unanswered]
      cases hname : m.interface with
      | none => rfl
      | some name =>
        dsimp only
        rw [if_pos ((hmem name).2 (hknown name hname))]
  · rintro rfl
    unfold unanswered
    cases hname : m.interface with
    | none => exact .unknownMethod (by simp [hname]) (Message.reported_iff.2 rfl)
    | some name =>
      dsimp only
      split
      · next hcontains =>
        refine .unknownMethod (fun name' hname' => ?_) (Message.reported_iff.2 rfl)
        obtain rfl : name = name' := Option.some.inj (hname.symm.trans hname')
        exact (hmem name).1 hcontains
      · next hcontains =>
        refine .unknownInterface hname (fun h hh heq => hcontains ?_) (Message.reported_iff.2 rfl)
        exact (hmem name).2 ⟨h, hh, heq⟩

theorem answered_some_iff {handlers : List H} {answer result : Except Error Message} :
    Answered m handlers (some answer) result ↔
      result = match answer with
        | .ok reply => .ok reply
        | .error e => m.error (.ofError e) := by
  cases answer with
  | ok reply => exact ⟨by rintro ⟨⟩; rfl, by rintro rfl; exact .replied reply⟩
  | error e =>
    refine ⟨?_, fun h => .failed (Message.reported_iff.2 h)⟩
    rintro (_ | hreported)
    exact hreported.eq_error

/-- A call goes through the handlers of an object in order, and what it is answered with follows
from how it goes: nothing else happens to the object. -/
theorem ends_handle_iff {o o' : Object H} {talk : List (Talk H)} {result : Except Error Message}
    (hm : m.interface ≠ some propertiesInterface) :
    (o.handle m).Ends talk (result, o') ↔
      o'.path = o.path ∧
        ∃ answer, Offered m o.handlers talk answer o'.handlers ∧
          Answered m o.handlers answer result := by
  rw [handle, if_neg hm, handleMethod]
  simp only [Session.ends_bind_iff, Session.ends_pure_iff, Prod.exists, Prod.mk.injEq,
    ends_offer_iff]
  constructor
  · rintro ⟨answer, handlers', first, _, rfl, hoffered, rfl, rfl, rfl⟩
    rw [List.append_nil]
    refine ⟨rfl, answer, hoffered, ?_⟩
    cases answer with
    | none => exact answered_none_iff.2 rfl
    | some answer => cases answer <;> exact answered_some_iff.2 rfl
  · rintro ⟨hpath, answer, hoffered, hanswered⟩
    refine ⟨answer, o'.handlers, talk, [], (List.append_nil talk).symm, hoffered, rfl, ?_, ?_⟩
    · cases answer with
      | none => exact (answered_none_iff.1 hanswered).symm
      | some answer =>
        cases answer <;> exact (answered_some_iff.1 hanswered).symm
    · rw [← hpath]

/-! ### A call that passes two handlers -/

/-- The path of an object. -/
def lobbyPath : ObjectPath := ⟨"/lobby", by decide +kernel⟩

/-- The signal of a handler that then does not know the method. -/
def refusal : Message := .signal lobbyPath "Refused"

/-- A handler with one method. -/
def deskOf (interface : String) (counted : UInt32) (actions : List Action) : Script :=
  ⟨interface, [("Ring", actions)], [], counted⟩

/-- An object on which three handlers have one interface and another has a different one. The third
of the four has been called `n` times. -/
def lobby (n : UInt32) : Object Script :=
  ⟨lobbyPath, [deskOf "org.example.Desk" 0 [.emit refusal, .unknown],
    deskOf "org.example.Bell" 0 [], deskOf "org.example.Desk" n [.count],
    deskOf "org.example.Desk" 0 [.emit refusal]]⟩

/-- A call for one of the interfaces. -/
def ring : Message :=
  { Message.methodCall lobbyPath "Ring" with interface := some "org.example.Desk" }

/-- The reply that it is the eighth call. -/
def eighth : Message :=
  ring.methodReturn.withBody .uint32 ⟨.native, ⟨#[8, 0, 0, 0]⟩⟩

theorem ends_handle_lobby :
    ring.interface ≠ some propertiesInterface ∧
      ((lobby 7).handle ring).Ends [.emit refusal] (.ok eighth, lobby 8) := by
  have hring : ring.interface ≠ some propertiesInterface := by decide
  refine ⟨hring, (ends_handle_iff hring).2 ⟨rfl, some (.ok eighth), ?_, .replied eighth⟩⟩
  refine @Offered.answered _ _ ring
    [⟨deskOf "org.example.Desk" 0 [.emit refusal, .unknown], [.emit refusal], _⟩,
      ⟨deskOf "org.example.Bell" 0 [], [], _⟩]
    _ _ [] (.ok (.reply eighth)) (.ok eighth) _ ?_ ?_ ?_ ?_
  · exact List.forall_mem_cons.2 ⟨(Pass.declines_iff_of_for rfl).2 (.emit (.done _)),
      List.forall_mem_singleton.2 ((Pass.declines_iff_of_not_for (by decide)).2 ⟨rfl, rfl⟩)⟩
  · rfl
  · exact .done _
  · rfl

end Object

end DBus
