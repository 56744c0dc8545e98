import DBus.Object

/-!
# The bus

A bus within one process. It serves calls by its objects and hands signals to everybody who asked for
them. One counter numbers all that is sent: calls, replies and signals.

While an object serves a call it is not on the bus but with the call, so it cannot be handed to
somebody else, and a second call to it would wait for the first one forever. When the call is over the
object goes back to its place, unless the place has been given up in the meantime.
-/

namespace DBus

/-- Somebody's wish to receive signals, with those that have come and not been taken. -/
structure Subscription where
  id : Nat
  rule : MatchRule
  /-- The signals that wait, the oldest first. -/
  queue : List Message := []
  /-- Whether somebody still takes the signals. -/
  isOpen : Bool := true

/-- A subscription after a message has been sent; it is gone if nobody takes its signals. -/
def Subscription.offered (m : Message) (s : Subscription) : Option Subscription :=
  if !s.isOpen then none
  else if s.rule.accepts m then some { s with queue := s.queue ++ [m] }
  else some s

/-- The place of an object on the bus. -/
inductive Place (H : Type) where
  /-- The object is there. -/
  | idle (object : Object H)
  /-- The object is serving a call. -/
  | serving

/-- The state of a bus whose objects have handlers in `H`. -/
structure Bus (H : Type) where
  /-- The number of the message that was sent last, zero before the first. -/
  lastSerial : UInt32 := 0
  /-- The places that are taken, by path. -/
  places : List (ObjectPath × Place H) := []
  /-- The subscriptions, the oldest first. -/
  subscriptions : List Subscription := []
  /-- The number of the next subscription. -/
  nextSubscription : Nat := 0
  /-- Whether somebody can still send. -/
  isOpen : Bool := true

namespace Bus

variable {H : Type}

instance : Inhabited (Bus H) := ⟨{}⟩

/-! ### Objects -/

/-- What is at a path. -/
def placeOf (b : Bus H) (path : ObjectPath) : Option (Place H) :=
  b.places.lookup path

/-- The bus with nothing at a path. -/
def vacate (b : Bus H) (path : ObjectPath) : Bus H :=
  { b with places := b.places.filter fun p => p.1 != path }

/-- The bus with a place at a path. -/
def occupy (b : Bus H) (path : ObjectPath) (place : Place H) : Bus H :=
  { b with places := (path, place) :: (b.vacate path).places }

/-- The object at a path, unless it is serving a call. -/
def idleAt (b : Bus H) (path : ObjectPath) : Option (Object H) :=
  match b.placeOf path with
  | some (.idle object) => some object
  | _ => none

/-- Puts an object at its path. Gives the object that was there and is not serving a call. -/
def register (b : Bus H) (object : Object H) : Option (Object H) × Bus H :=
  (b.idleAt object.path, b.occupy object.path (.idle object))

/-- Takes away what is at a path. Gives the object if it is not serving a call. -/
def unregister (b : Bus H) (path : ObjectPath) : Option (Object H) × Bus H :=
  (b.idleAt path, b.vacate path)

/-- Puts an object back that has served a call, unless its place is no longer its own. -/
def giveBack (b : Bus H) (object : Object H) : Bus H :=
  match b.placeOf object.path with
  | some .serving => b.occupy object.path (.idle object)
  | _ => b

/-! ### Serials -/

/-- The next serial. -/
def nextSerial (b : Bus H) : Serial × Bus H :=
  let serial := Serial.after b.lastSerial
  (serial, { b with lastSerial := serial.number })

/-! ### Signals -/

/-- Sends a signal. -/
def emit (b : Bus H) (signal : Message) : Bus H :=
  let (serial, b) := b.nextSerial
  { b with
    subscriptions := b.subscriptions.filterMap (Subscription.offered (signal.withSerial serial)) }

/-- Opens a subscription and gives its number. -/
def subscribe (b : Bus H) (rule : MatchRule) : Nat × Bus H :=
  (b.nextSubscription,
    { b with
      subscriptions := b.subscriptions ++ [{ id := b.nextSubscription, rule }]
      nextSubscription := b.nextSubscription + 1 })

/-- The open subscription with a number. -/
def subscription? (b : Bus H) (id : Nat) : Option Subscription :=
  b.subscriptions.find? fun s => s.id == id && s.isOpen

/-- Changes the subscription with a number. -/
def changeSubscription (b : Bus H) (id : Nat) (change : Subscription → Subscription) : Bus H :=
  { b with subscriptions := b.subscriptions.map fun s => if s.id == id then change s else s }

/-- Takes the oldest signal that waits in a subscription. -/
def receive (b : Bus H) (id : Nat) : Option Message × Bus H :=
  ((b.subscription? id).bind (·.queue.head?),
    b.changeSubscription id fun s => { s with queue := s.queue.tail })

/-- Closes a subscription, and with it all that waits. -/
def drop (b : Bus H) (id : Nat) : Bus H :=
  b.changeSubscription id fun s => { s with queue := [], isOpen := false }

/-- Nobody can send any more. What waits can still be received. -/
def close (b : Bus H) : Bus H :=
  { b with places := [], isOpen := false }

end Bus

/-! ### Sessions on a bus -/

/-- What happens on a bus and ends with a result; nothing if it never ends. -/
abbrev Exchange (H : Type) (α : Type) := StateT (Bus H) Option α

namespace Exchange

variable {H : Type}

/-- A step that always ends. -/
def step (f : Bus H → α × Bus H) : Exchange H α :=
  fun b => some (f b)

/-- A step without a result. -/
def change (f : Bus H → Bus H) : Exchange H Unit :=
  fun b => some ((), f b)

/-- What never ends. -/
def stuck : Exchange H α :=
  fun _ => none

/-- Makes the requests of a session, its calls being served by `serve`. -/
def ofSession (serve : Message → Exchange H (Except Error Message)) : Session H α → Exchange H α
  | .done result => pure result
  | .register object next => do ofSession serve (next (← step (·.register object)))
  | .unregister path next => do ofSession serve (next (← step (·.unregister path)))
  | .emit m next => do
    change (·.emit m)
    ofSession serve next
  | .call m next => do ofSession serve (next (← serve m))
  | .subscribe rule next => do ofSession serve (next (← step (·.subscribe rule)))
  | .receive id next => do ofSession serve (next (← step (·.receive id)))
  | .drop id next => do
    change (·.drop id)
    ofSession serve next

variable [InterfaceHandler H]

/-- Numbers the reply to a call and takes its result. -/
def finishCall : Except Error Message → Exchange H (Except Error Message)
  | .error e => return .error e
  | .ok reply => do return (reply.withSerial (← step (·.nextSerial))).intoResult

/-- Serves a call. The calls that are made meanwhile may nest `depth` deep; deeper ones, and those to
an object that is already serving one, never end. -/
def call (depth : Nat) (m : Message) : Exchange H (Except Error Message) := do
  let m := m.withSerial (← step (·.nextSerial))
  match m.path? with
  | none => return .error .unexpectedReply
  | some path =>
    match (← get).placeOf path with
    | none => finishCall (m.error (.unknownObject path.text))
    | some .serving => stuck
    | some (.idle object) =>
      match depth with
      | 0 => stuck
      | depth + 1 =>
        change (·.occupy path .serving)
        let (reply, object) ← ofSession (call depth) (object.handle m)
        change (·.giveBack object)
        finishCall reply

/-- Serves a call by the objects that are on the bus. Each nested call takes another one of them off
the bus, so as long as the handlers register no objects the nesting is deep enough. -/
def callNow (m : Message) : Exchange H (Except Error Message) := do
  call (← get).places.length m

/-- Makes the requests of a session. -/
def run (s : Session H α) : Exchange H α :=
  ofSession callNow s

end Exchange

end DBus
