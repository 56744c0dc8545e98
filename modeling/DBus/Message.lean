import DBus.Message.Fault
import DBus.Wire.Boxed

/-!
# Messages

What travels over a bus: calls of methods, the two kinds of reply to them, and signals. A reply goes
back the way its call came, so the two swap destination and sender. The body of a message is kept as
bytes, next to the signature that says how to read them.

Messages are told apart by serials. They are counted upwards from one, and after the largest one the
count starts again; zero is no serial.
-/

namespace DBus

/-- The number of a message. -/
structure Serial where
  number : UInt32
  /-- Zero is no serial. -/
  nonzero : number ≠ 0
  deriving DecidableEq, Repr

namespace Serial

/-- The serial that a number is. -/
def ofNumber? (n : UInt32) : Option Serial :=
  if h : n ≠ 0 then some ⟨n, h⟩ else none

/-- The serial that comes after a number. -/
def after (last : UInt32) : Serial :=
  if h : last + 1 ≠ 0 then ⟨last + 1, h⟩ else ⟨1, by decide⟩

instance : Inhabited Serial := ⟨after 0⟩

end Serial

/-! ### Messages -/

/-- What kind of message a message is, with what only that kind has. -/
inductive Message.Kind where
  | methodCall (path : ObjectPath) (member : String)
  | methodReturn (replySerial : Option Serial)
  | error (name : String) (replySerial : Option Serial)
  | signal (path : ObjectPath) (member : String)
  deriving DecidableEq

/-- Bodies are compared as wholes. -/
local instance (priority := high) decidableEqBody : DecidableEq ByteArray := ByteArray.decEq

/-- A message. -/
structure Message where
  kind : Message.Kind
  /-- The number of the message, once it has been sent. -/
  serial : Option Serial := none
  interface : Option String := none
  destination : Option String := none
  sender : Option String := none
  /-- The types of the values in the body. -/
  signature : Signature := .empty
  /-- The byte order of the body. -/
  order : ByteOrder := .native
  body : ByteArray := .empty
  deriving DecidableEq

namespace Message

/-! ### Parts -/

/-- The object that is called or that a signal comes from. -/
def path? (m : Message) : Option ObjectPath :=
  match m.kind with
  | .methodCall path _ | .signal path _ => some path
  | .methodReturn _ | .error _ _ => none

/-- The method that is called or the signal that is sent. -/
def member? (m : Message) : Option String :=
  match m.kind with
  | .methodCall _ member | .signal _ member => some member
  | .methodReturn _ | .error _ _ => none

/-- The name of the error that a reply reports. -/
def errorName? (m : Message) : Option String :=
  match m.kind with
  | .error name _ => some name
  | _ => none

/-- The serial of the call that a message replies to. -/
def replySerial? (m : Message) : Option Serial :=
  match m.kind with
  | .methodReturn serial | .error _ serial => serial
  | .methodCall _ _ | .signal _ _ => none

/-! ### Making messages -/

/-- A call of a method. -/
def methodCall (path : ObjectPath) (member : String) : Message :=
  { kind := .methodCall path member }

/-- A signal. -/
def signal (path : ObjectPath) (member : String) : Message := { kind := .signal path member }

/-- The message with another body. -/
def withBody (m : Message) (signature : Signature) (body : Writer) : Message :=
  { m with signature, order := body.order, body := body.bytes }

/-- The message with a serial. -/
def withSerial (m : Message) (serial : Serial) : Message :=
  { m with serial := some serial }

/-- A message of a kind that goes back where a call came from. -/
def replyTo (call : Message) (kind : Kind) : Message :=
  { kind, destination := call.sender, sender := call.destination }

/-- The reply to a call that has succeeded, without a body. -/
def methodReturn (call : Message) : Message :=
  call.replyTo (.methodReturn call.serial)

/-- The reply to a call that has failed. Its body is the text of the fault, which must be one that can
be written. -/
def error (call : Message) (fault : Fault) : Except Error Message := do
  let body ← (Writer.new .native).write (Write.string fault.text)
  return (call.replyTo (.error fault.name call.serial)).withBody .string body

/-! ### Taking messages apart -/

/-- The reader of the body. -/
def reader (m : Message) : Reader :=
  Reader.new m.order m.body

/-- The reader of the body, which must have a signature. -/
def bodyOf (m : Message) (expected : String) : Except Error Reader :=
  if m.signature.text = expected then .ok m.reader
  else .error (.unexpectedSignature expected m.signature.text)

/-- The text in the body of an error, if the body is just a text. -/
def errorText (m : Message) : String :=
  match do (← m.bodyOf "s").run Read.string with
  | .ok text => text
  | .error _ => ""

/-- The reply to a call as its result: an error reply is an error, and so is a message that is no
reply. -/
def intoResult (m : Message) : Except Error Message :=
  match m.kind with
  | .methodReturn _ => .ok m
  | .error name _ => .error (.remote name m.errorText)
  | .methodCall _ _ | .signal _ _ => .error .unexpectedReply

end Message

/-! ### Match rules -/

/-- A rule for signals: an interface and a member, and a path if only the signals of one object
count. -/
structure MatchRule where
  interface : String
  member : String
  path : Option ObjectPath := none
  deriving DecidableEq

/-- Whether a message is a signal that a rule asks for. -/
def MatchRule.accepts (rule : MatchRule) (m : Message) : Bool :=
  match m.kind with
  | .signal path member =>
    m.interface == some rule.interface && member == rule.member && rule.path.all (· == path)
  | _ => false

end DBus
