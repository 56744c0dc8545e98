import DBus.Object.Properties

/-!
# Objects

How an object serves a call. A call of the standard properties interface is served by the object
itself. Every other call is offered to the handlers in turn, to those of the interface that it names
or to all if it names none, until one of them replies or fails. A call is always answered: a failure,
and a call that nobody knows, with an error reply; there is no answer only if the text of that error
cannot be written.
-/

namespace DBus

namespace Object

variable {H : Type} [InterfaceHandler H]

open InterfaceHandler (interface dispatch getProperty setProperty properties)

/-- An object without interfaces. -/
def new (path : ObjectPath) : Object H := ⟨path, []⟩

/-- The object with one more handler, which comes last. -/
def add (o : Object H) (handler : H) : Object H :=
  { o with handlers := o.handlers ++ [handler] }

/-- The names of the interfaces, one for each handler. -/
def interfaces (o : Object H) : List String :=
  o.handlers.map interface

/-! ### Methods -/

/-- Whether a call is for an interface: it names that one or none. -/
def isFor (m : Message) (name : String) : Bool :=
  m.interface.all (· == name)

/-- Offers a call to handlers in turn. The answer is that of the first that replies or fails. -/
def offer (m : Message) : List H → Session H (Option (Except Error Message) × List H)
  | [] => return (none, [])
  | h :: rest =>
    if isFor m (interface h) then do
      let (outcome, h) ← dispatch h m
      match outcome with
      | .ok (.reply reply) => return (some (.ok reply), h :: rest)
      | .error e => return (some (.error e), h :: rest)
      | .ok .unknownMember =>
        let (answer, rest) ← offer m rest
        return (answer, h :: rest)
    else do
      let (answer, rest) ← offer m rest
      return (answer, h :: rest)

/-- The fault of a call that nobody answers. -/
def unanswered (m : Message) (interfaces : List String) : Fault :=
  match m.interface with
  | some name =>
    if interfaces.contains name then .unknownMethod (m.member?.getD "") else .unknownInterface name
  | none => .unknownMethod (m.member?.getD "")

/-- Serves a call of a method. -/
def handleMethod (o : Object H) (m : Message) : Session H (Except Error Message × Object H) := do
  let (answer, handlers) ← offer m o.handlers
  let reply := match answer with
    | some (.ok reply) => .ok reply
    | some (.error e) => m.error (.ofError e)
    | none => m.error (unanswered m o.interfaces)
  return (reply, { o with handlers })

/-! ### Properties -/

/-- The first handler of an interface. -/
def find (o : Object H) (name : String) : Except Fault H :=
  match o.handlers.find? fun h => interface h == name with
  | some h => .ok h
  | none => .error (.unknownInterface name)

/-- Has the first handler of an interface do something. -/
def updateFirst (name : String) (change : H → Session H (Except Fault Unit × H)) :
    List H → Session H (Except Fault Unit × List H)
  | [] => return (.error (.unknownInterface name), [])
  | h :: rest =>
    if interface h == name then do
      let (outcome, h) ← change h
      return (outcome, h :: rest)
    else do
      let (outcome, rest) ← updateFirst name change rest
      return (outcome, h :: rest)

/-- What fails while a call is served is answered as a fault. -/
def orFault : Except Error α → Except Fault α
  | .ok a => .ok a
  | .error e => .error (.ofError e)

/-- The body of a call, which must have a signature. -/
def argumentsOf (m : Message) (signature : String) : Except Fault Reader :=
  match m.bodyOf signature with
  | .ok r => .ok r
  | .error e => .error (.invalidArgs e.message)

/-- The name of an interface and the name of one of its properties. -/
def readNames : Read (String × String) := do
  let interface ← Read.string
  let name ← Read.string
  return (interface, name)

/-- A property and the value that it is to get. -/
def readAssignment : Read (String × String × Value) := do
  let (interface, name) ← readNames
  let value ← Read.variant
  return (interface, name, value)

/-- Replies with one property. -/
def handleGet (o : Object H) (m : Message) : ExceptT Fault (Session H) Message := do
  let (interface, name) ← orFault ((← argumentsOf m "ss").run readNames)
  let value ← ExceptT.mk (getProperty (← o.find interface) name)
  let body ← orFault ((Writer.new .native).write (Write.variant value))
  return m.methodReturn.withBody .variant body

/-- The arguments of a call that sets a property. -/
def assignmentOf (m : Message) : Except Fault (String × String × Value) := do
  orFault ((← argumentsOf m "ssv").run readAssignment)

/-- Sets one property. -/
def handleSet (o : Object H) (m : Message) : Session H (Except Fault Message × Object H) :=
  match assignmentOf m with
  | .error fault => return (.error fault, o)
  | .ok (interface, name, value) => do
    let (outcome, handlers) ← updateFirst interface (setProperty · name value) o.handlers
    return (outcome.map fun _ => m.methodReturn, { o with handlers })

/-- Replies with all properties of an interface that may be read. -/
def handleGetAll (o : Object H) (m : Message) : ExceptT Fault (Session H) Message := do
  let interface ← orFault ((← argumentsOf m "s").run Read.string)
  let values ← ExceptT.mk (properties (← o.find interface))
  let body ← orFault ((Writer.new .native).write (Write.propertyMap values))
  return m.methodReturn.withBody .propertyMap body

/-- Serves a call of the properties interface. -/
def handleProperties (o : Object H) (m : Message) :
    Session H (Except Fault Message × Object H) := do
  match m.member?.getD "" with
  | "Get" => return (← (o.handleGet m).run, o)
  | "Set" => o.handleSet m
  | "GetAll" => return (← (o.handleGetAll m).run, o)
  | member => return (.error (.unknownMethod member), o)

/-! ### Calls -/

/-- Serves a call. -/
def handle (o : Object H) (m : Message) : Session H (Except Error Message × Object H) :=
  if m.interface = some propertiesInterface then do
    match ← o.handleProperties m with
    | (.ok reply, o) => return (.ok reply, o)
    | (.error fault, o) => return (m.error fault, o)
  else o.handleMethod m

end Object

end DBus
