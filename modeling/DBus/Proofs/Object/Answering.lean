import DBus.Object.Script
import DBus.Proofs.Object.Properties
import DBus.Proofs.Object.Routing

/-!
# Replies go back to their calls

An object makes its own replies from the call that it serves: they have the serial of the call, and
go back where it came from. If its handlers do the same then so does every reply that leaves the
object.
-/

namespace DBus

namespace Message

/-- A reply that has been made from a call: it is a method return or an error with the serial of the
call, and goes from its destination to its sender. -/
structure Answers (call reply : Message) : Prop where
  kind : reply.kind = .methodReturn call.serial ∨ ∃ name, reply.kind = .error name call.serial
  destination : reply.destination = call.sender
  sender : reply.sender = call.destination

theorem answers_methodReturn (call : Message) : call.Answers call.methodReturn :=
  ⟨.inl rfl, rfl, rfl⟩

/-- The body of a reply may be any. -/
theorem Answers.withBody {call reply : Message} (h : call.Answers reply) (signature : Signature)
    (body : Writer) : call.Answers (reply.withBody signature body) :=
  ⟨h.kind, h.destination, h.sender⟩

theorem answers_of_error {call reply : Message} {fault : Fault} (h : call.error fault = .ok reply) :
    call.Answers reply := by
  obtain ⟨-, rfl⟩ := error_eq_ok_iff.1 h
  exact ⟨.inr ⟨fault.name, rfl⟩, rfl, rfl⟩

end Message

open InterfaceHandler (dispatch)

/-- Handlers whose replies are made from the calls that they are given. -/
def AnswersCalls (H : Type) [InterfaceHandler H] : Prop :=
  ∀ {h h' : H} {m reply : Message} {talk : List (Talk H)},
    (dispatch h m).Ends talk (.ok (.reply reply), h') → m.Answers reply

namespace Object

variable {H : Type} [InterfaceHandler H] {o o' : Object H} {m reply : Message}
  {talk : List (Talk H)}

theorem answers_of_replyWith {signature : Signature} {body : Write Unit}
    (h : replyWith m signature body = .ok reply) : m.Answers reply := by
  rw [replyWith] at h
  cases hwritten : orFault ((Writer.new .native).write body) with
  | error fault =>
    rw [hwritten] at h
    cases h
  | ok w =>
    rw [hwritten] at h
    cases h
    exact m.answers_methodReturn.withBody signature w

theorem answers_of_ends_handleGet (h : (o.handleGet m).run.Ends talk (.ok reply)) :
    m.Answers reply := by
  rw [run_handleGet] at h
  split at h
  · cases h
  · obtain ⟨value, _, _, -, -, hreply⟩ := Session.ends_bind_iff.1 h
    obtain ⟨_, -, hwritten⟩ := bind_eq_ok_iff.1 (Session.ends_pure_iff.1 hreply).2
    exact answers_of_replyWith hwritten

theorem answers_of_ends_handleGetAll (h : (o.handleGetAll m).run.Ends talk (.ok reply)) :
    m.Answers reply := by
  rw [run_handleGetAll] at h
  split at h
  · cases h
  · obtain ⟨values, _, _, -, -, hreply⟩ := Session.ends_bind_iff.1 h
    obtain ⟨_, -, hwritten⟩ := bind_eq_ok_iff.1 (Session.ends_pure_iff.1 hreply).2
    exact answers_of_replyWith hwritten

theorem answers_of_ends_handleSet (h : (o.handleSet m).Ends talk (.ok reply, o')) :
    m.Answers reply := by
  rw [handleSet] at h
  split at h
  · cases h
  · obtain ⟨⟨outcome, handlers⟩, _, _, -, -, hrest⟩ := Session.ends_bind_iff.1 h
    obtain ⟨hreply, -⟩ := Prod.mk.inj (Session.ends_pure_iff.1 hrest).2
    cases outcome with
    | error fault => cases hreply
    | ok =>
      cases hreply
      exact m.answers_methodReturn

/-- The replies to calls of the properties interface are method returns. -/
theorem answers_of_ends_handleProperties
    (h : (o.handleProperties m).Ends talk (.ok reply, o')) : m.Answers reply := by
  rcases member_cases m with hmember | hmember | hmember | hmember
  · rw [handleProperties_get o hmember, Session.ends_bind_iff] at h
    obtain ⟨_, _, _, -, hget, hrest⟩ := h
    obtain ⟨⟩ := (Session.ends_pure_iff.1 hrest).2
    exact answers_of_ends_handleGet hget
  · rw [handleProperties_set o hmember] at h
    exact answers_of_ends_handleSet h
  · rw [handleProperties_getAll o hmember, Session.ends_bind_iff] at h
    obtain ⟨_, _, _, -, hgetAll, hrest⟩ := h
    obtain ⟨⟩ := (Session.ends_pure_iff.1 hrest).2
    exact answers_of_ends_handleGetAll hgetAll
  · rw [handleProperties_unknown o hmember] at h
    cases h

/-- The reply that an offer ends with is one of a handler. -/
theorem answers_of_offered (answers : AnswersCalls H) {handlers handlers' : List H}
    (h : Offered m handlers talk (some (.ok reply)) handlers') : m.Answers reply := by
  cases h with
  | @answered passes h h' own outcome answer behind _ _ hends hanswer =>
    rcases outcome with e | ⟨r⟩ | -
    · cases hanswer
    · cases hanswer
      exact answers hends
    · cases hanswer

/-- Every reply that leaves an object has been made from the call that the object was given. -/
theorem answers_of_ends_handle (answers : AnswersCalls H)
    (h : (o.handle m).Ends talk (.ok reply, o')) : m.Answers reply := by
  by_cases hm : m.interface = some propertiesInterface
  · obtain ⟨outcome, hserved, heq⟩ := (ends_handle_properties_iff hm).1 h
    cases outcome with
    | ok r =>
      cases heq
      exact answers_of_ends_handleProperties hserved
    | error fault => exact Message.answers_of_error heq.symm
  · rw [handle, if_neg hm, handleMethod] at h
    obtain ⟨⟨answer, handlers⟩, _, _, -, hoffered, hrest⟩ := Session.ends_bind_iff.1 h
    obtain ⟨heq, -⟩ := Prod.mk.inj (Session.ends_pure_iff.1 hrest).2
    rcases answer with - | e | r
    · exact Message.answers_of_error heq
    · exact Message.answers_of_error heq
    · cases heq
      exact answers_of_offered answers (ends_offer_iff.1 hoffered)

end Object

/-! ### Scripts -/

namespace Script

variable {s s' : Script} {m reply : Message} {talk : List (Talk Script)}

theorem answers_of_replyWith {signature : Signature} {body : Write Unit}
    (h : replyWith m signature body = .ok (.reply reply)) : m.Answers reply := by
  obtain ⟨w, -, ⟨⟩⟩ := bind_eq_ok_iff.1 h
  exact m.answers_methodReturn.withBody signature w

theorem answers_of_ends_act {actions : List Action}
    (h : (act m actions s).Ends talk (.ok (.reply reply), s')) : m.Answers reply := by
  induction actions generalizing s talk with
  | nil =>
    obtain ⟨-, ⟨⟩⟩ := Session.ends_pure_iff.1 h
    exact m.answers_methodReturn
  | cons a rest ih =>
    cases a with
    | unknown | fail => cases h
    | expect signature =>
      rw [act] at h
      split at h
      · exact ih h
      · cases h
    | emit signal =>
      cases h with
      | emit h => exact ih h
    | call c =>
      cases h with
      | @call _ _ result _ _ h =>
        cases result with
        | ok => exact ih h
        | error e => cases h
    | unregister path =>
      cases h with
      | unregister h =>
        obtain ⟨-, heq⟩ := Session.ends_pure_iff.1 h
        exact answers_of_replyWith (Prod.mk.inj heq).1
    | reply signature body =>
      cases h
      exact m.answers_methodReturn.withBody signature body
    | error fault =>
      obtain ⟨-, heq⟩ := Session.ends_pure_iff.1 h
      have hreply := (Prod.mk.inj heq).1
      cases herror : m.error fault with
      | error e =>
        rw [herror] at hreply
        cases hreply
      | ok r =>
        rw [herror] at hreply
        cases hreply
        exact Message.answers_of_error herror
    | echo =>
      cases h
      exact m.answers_methodReturn.withBody _ _
    | count =>
      obtain ⟨-, heq⟩ := Session.ends_pure_iff.1 h
      exact answers_of_replyWith (Prod.mk.inj heq).1

/-- Scripts make their replies from the calls. -/
theorem answersCalls : AnswersCalls Script := by
  intro s s' m reply talk h
  replace h : (s.dispatch m).Ends talk (.ok (.reply reply), s') := h
  rw [Script.dispatch] at h
  split at h
  · exact answers_of_ends_act h
  · cases h

end Script

end DBus
