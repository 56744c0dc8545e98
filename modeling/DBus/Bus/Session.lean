import DBus.Message
import DBus.Object.PropertyMap

/-!
# Sessions

A session is what somebody does with a bus: a sequence of requests in which each may depend on the
answers to those before it. Users of a bus and the handlers of its objects make the same requests, so
the serving of a call is a session too. What a request does is said where the bus is defined.

A handler implements one interface of an object: it serves the calls of its methods and keeps its
properties.
-/

namespace DBus

/-- An object: its path, and the handlers of its interfaces in the order in which calls are offered
to them. -/
structure Object (H : Type) where
  path : ObjectPath
  handlers : List H

/-- A sequence of requests to a bus whose objects have handlers in `H`, with a result in `α`. -/
inductive Session (H : Type) (α : Type) where
  /-- Makes no more requests. -/
  | done (result : α)
  /-- Puts an object on the bus; answered with the object in whose place it comes. -/
  | register (object : Object H) (next : Option (Object H) → Session H α)
  /-- Takes the object with a path off the bus. -/
  | unregister (path : ObjectPath) (next : Option (Object H) → Session H α)
  /-- Sends a signal. -/
  | emit (signal : Message) (next : Session H α)
  /-- Calls a method and waits for the result. -/
  | call (call : Message) (next : Except Error Message → Session H α)
  /-- Asks for the signals that a rule accepts; answered with the number of the subscription. -/
  | subscribe (rule : MatchRule) (next : Nat → Session H α)
  /-- Takes the next signal of a subscription, if one has come. -/
  | receive (subscription : Nat) (next : Option Message → Session H α)
  /-- Gives up a subscription. -/
  | drop (subscription : Nat) (next : Session H α)

namespace Session

/-- Goes on with a session made from the result of another one. -/
def bind : Session H α → (α → Session H β) → Session H β
  | .done a, f => f a
  | .register object next, f => .register object fun old => (next old).bind f
  | .unregister path next, f => .unregister path fun old => (next old).bind f
  | .emit m next, f => .emit m (next.bind f)
  | .call m next, f => .call m fun result => (next result).bind f
  | .subscribe rule next, f => .subscribe rule fun id => (next id).bind f
  | .receive id next, f => .receive id fun signal => (next signal).bind f
  | .drop id next, f => .drop id (next.bind f)

instance : Monad (Session H) where
  pure := .done
  bind := .bind

theorem bind_done (s : Session H α) : s.bind .done = s := by
  induction s with
  | done => rfl
  | register _ _ ih | unregister _ _ ih | call _ _ ih | subscribe _ _ ih | receive _ _ ih =>
    simp only [bind, ih]
  | emit _ _ ih | drop _ _ ih => simp only [bind, ih]

theorem bind_assoc (s : Session H α) (f : α → Session H β) (g : β → Session H γ) :
    (s.bind f).bind g = s.bind fun a => (f a).bind g := by
  induction s with
  | done => rfl
  | register _ _ ih | unregister _ _ ih | call _ _ ih | subscribe _ _ ih | receive _ _ ih =>
    simp only [bind, ih]
  | emit _ _ ih | drop _ _ ih => simp only [bind, ih]

instance : LawfulMonad (Session H) :=
  LawfulMonad.mk' _ bind_done (fun _ _ => rfl) bind_assoc

end Session

/-! ### Interface handlers -/

/-- What becomes of a call that is offered to a handler. -/
inductive Dispatch where
  | reply (message : Message)
  /-- The interface has no such member, so another handler may have it. -/
  | unknownMember

/-- The states of handlers, and what they do. Whatever a handler does it may make requests meanwhile. -/
class InterfaceHandler (H : Type) where
  /-- The name of the interface. -/
  interface : H → String
  /-- Serves a call; gives also the handler as it is afterwards. -/
  dispatch : H → Message → Session H (Except Error Dispatch × H)
  /-- The value of a property. -/
  getProperty : H → String → Session H (Except Fault Value)
  /-- Sets a property; gives also the handler as it is afterwards. -/
  setProperty : H → String → Value → Session H (Except Fault Unit × H)
  /-- The values of all properties that may be read. -/
  properties : H → Session H (Except Fault PropertyMap)

end DBus
