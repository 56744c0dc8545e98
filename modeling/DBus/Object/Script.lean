import DBus.Bus.Session
import DBus.Introspect.Element

/-!
# Scripts

Interface handlers given by data: for each method a list of actions, and a table of properties. A
method runs its actions in order until one of them replies; if none does, the reply is a method return
without a body.
-/

namespace DBus

open Introspect (Access)

/-- A step of a scripted method. -/
inductive Action where
  /-- The method is not known after all. -/
  | unknown
  /-- Fails unless the body of the call has a signature. -/
  | expect (signature : String)
  /-- Fails as if the body had the second signature where the first is wanted. -/
  | fail (expected actual : String)
  /-- Sends a signal. -/
  | emit (signal : Message)
  /-- Calls a method; fails if that fails. -/
  | call (call : Message)
  /-- Takes an object off the bus and replies whether it could be had. -/
  | unregister (path : ObjectPath)
  /-- Replies with a body. -/
  | reply (signature : Signature) (body : Writer)
  /-- Replies with a fault. -/
  | error (fault : Fault)
  /-- Replies with the body of the call. -/
  | echo
  /-- Replies how often actions of this kind have been run. -/
  | count

/-- A property of a script. -/
structure ScriptProperty where
  name : String
  access : Access
  /-- The signature of the values that it may be set to. -/
  signature : String
  value : Option Value

/-- An interface handler given by data. -/
structure Script where
  interface : String
  methods : List (String × List Action)
  properties : List ScriptProperty
  /-- How often calls have been counted. -/
  counted : UInt32 := 0

/-- The signature of one boolean. -/
def Signature.boolean : Signature := ⟨"b", by decide +kernel⟩

/-- The signature of one number of four bytes. -/
def Signature.uint32 : Signature := ⟨"u", by decide +kernel⟩

namespace Script

/-- The reply to a call whose body is one value. -/
def replyWith (call : Message) (signature : Signature) (body : Write Unit) :
    Except Error Dispatch := do
  return .reply (call.methodReturn.withBody signature (← (Writer.new .native).write body))

/-- Runs actions until one of them replies or fails. -/
def act (m : Message) : List Action → Script → Session H (Except Error Dispatch × Script)
  | [], s => return (.ok (.reply m.methodReturn), s)
  | a :: rest, s =>
    match a with
    | .unknown => return (.ok .unknownMember, s)
    | .expect signature =>
      match m.bodyOf signature with
      | .ok _ => act m rest s
      | .error e => return (.error e, s)
    | .fail expected actual => return (.error (.unexpectedSignature expected actual), s)
    | .emit signal => .emit signal (act m rest s)
    | .call c => .call c fun
      | .ok _ => act m rest s
      | .error e => .done (.error e, s)
    | .unregister path => .unregister path fun old =>
      .done (replyWith m .boolean (Write.boolean old.isSome), s)
    | .reply signature body => return (.ok (.reply (m.methodReturn.withBody signature body)), s)
    | .error fault => return ((m.error fault).map .reply, s)
    | .echo => return (.ok (.reply (m.methodReturn.withBody m.signature ⟨m.order, m.body⟩)), s)
    | .count =>
      let counted := s.counted + 1
      return (replyWith m .uint32 (Write.number 4 counted.toNat), { s with counted })

/-- Serves a call by the actions of its method. -/
def dispatch (s : Script) (m : Message) : Session H (Except Error Dispatch × Script) :=
  match m.member?.bind fun member => s.methods.lookup member with
  | some actions => act m actions s
  | none => return (.ok .unknownMember, s)

/-- The property with a name. -/
def property? (s : Script) (name : String) : Option ScriptProperty :=
  s.properties.find? (·.name == name)

/-- The value of a property. -/
def getProperty (s : Script) (name : String) : Except Fault Value :=
  match s.property? name with
  | none => .error (.unknownProperty name)
  | some p =>
    if p.access = .write then .error (.propertyWriteOnly name)
    else
      match p.value with
      | some value => .ok value
      | none => .error (.failed ("Property `" ++ name ++ "` has no value"))

/-- The script with a property set to a value of its signature. -/
def withProperty (s : Script) (name : String) (value : Value) : Except Fault Script :=
  match s.property? name with
  | none => .error (.unknownProperty name)
  | some p =>
    if p.access = .read then .error (.propertyReadOnly name)
    else
      match Writer.ofValue value p.signature with
      | .error e => .error (.invalidArgs e.message)
      | .ok _ =>
        .ok { s with
          properties := s.properties.map fun q =>
            if q.name == name then { q with value := some value } else q }

/-- Sets a property if that can be done. -/
def setProperty (s : Script) (name : String) (value : Value) : Except Fault Unit × Script :=
  match s.withProperty name value with
  | .ok changed => (.ok (), changed)
  | .error fault => (.error fault, s)

/-- The values of the properties that may be read and have one. -/
def readable (s : Script) : PropertyMap :=
  .ofList (s.properties.filterMap fun p =>
    if p.access = .write then none else p.value.map fun value => (p.name, value))

end Script

instance : InterfaceHandler Script where
  interface := Script.interface
  dispatch := Script.dispatch
  getProperty s name := return s.getProperty name
  setProperty s name value := return s.setProperty name value
  properties s := return .ok s.readable

end DBus
