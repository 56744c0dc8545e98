import DBus.Bindings.Arguments
import DBus.Bindings.Properties

/-!
# Handlers

The handler of an interface: a trait with a function for each method, which the user implements; a
struct that reads calls, passes them to an implementation of the trait and writes the replies; and an
emitter of the signals of the interface.
-/

namespace DBus.Bindings

namespace Handler

open Code (paren brace bracket doc remark)

/-- The name of the trait. -/
def traitName (i : ResolvedInterface) : Ident :=
  .plain (i.typeName ++ "Methods")

/-- The name of the struct that dispatches calls. -/
def name (i : ResolvedInterface) : Ident :=
  .plain (i.typeName ++ "Handler")

/-- The name of the emitter. -/
def emitterName (i : ResolvedInterface) : Ident :=
  .plain (i.typeName ++ "Emitter")

/-! ### The trait -/

/-- The function of the trait for a method. -/
def traitMethod (rt : String) (m : ResolvedMethod) : Code :=
  doc (m.doc.getD ("Handle the `" ++ m.name ++ "` method."))
    ++ [.fixed "fn", .define m.handle,
      paren (.fixed "& mut self ," :: Arguments.params (ownedText rt) m.inputs),
      .fixed ("-> " ++ rt ++ " :: Result < " ++ Arguments.tupleType rt m.outputs ++ " , " ++ rt
        ++ " :: MethodError > ;")]

/-- The function of the trait that is told of a new value of a property. -/
def traitOnSet (rt : String) (p : ResolvedProperty) : Code :=
  match p.onSet with
  | some onSet =>
    doc ("Called when the `" ++ p.name ++ "` property is set, before the new value is stored.\n\n"
        ++ "Returning an error rejects the value.")
      ++ [.fixed "fn", .define onSet,
        .fixed ("(& mut self , _ : & " ++ ownedText rt p.type ++ ") -> " ++ rt
          ++ " :: Result < () , " ++ rt ++ " :: MethodError >"),
        brace [.fixed "Ok (())"]]
  | none => []

/-- The trait of an interface. -/
def traitCode (rt : String) (i : ResolvedInterface) : Code :=
  doc ("The methods of the `" ++ i.name ++ "` interface.")
    ++ [.fixed "pub trait", .define (traitName i), .fixed ": Send",
      brace (i.methods.flatMap (traitMethod rt) ++ i.properties.flatMap (traitOnSet rt))]

/-! ### Dispatch -/

/-- Replies that the arguments of a call are wrong. -/
def refuseArguments (rt : String) : String :=
  "return Ok (" ++ rt ++ " :: Dispatch :: Reply (" ++ rt ++ " :: Message :: error (message , & "
    ++ rt ++ " :: MethodError :: invalid_args (error) ,) ?)) ;"

/-- Compares the signature of a call with that of the inputs, and reads them. -/
def readInputs (rt : String) (inputs : List ResolvedArgument) : Generator Code :=
  if inputs.isEmpty then
    return [.fixed "if let Err (error) = message . body_of", paren [.signature (typesOf inputs)],
      brace [.fixed (refuseArguments rt)]]
  else do
    let reads ← Arguments.readLocals inputs
    return [.fixed "let mut body = match message . body_of", paren [.signature (typesOf inputs)],
      brace [.fixed "Ok (body) => body , Err (error) =>", brace [.fixed (refuseArguments rt)]],
      .fixed ";"] ++ reads

/-- Writes one output, which is in a place. -/
def writeOutput (a : ResolvedArgument) (place : String) : Generator Code := do
  let write ← Generator.writer a.type
  return Code.call .write write ++ [.fixed ("(& mut body , " ++ passPlace a.type place ++ ") ? ;")]

/-- Writes each of several outputs, counted from an index, from the tuple that holds them. -/
def writeFields : Nat → List ResolvedArgument → Generator Code
  | _, [] => return []
  | n, a :: rest => do
    let first ← writeOutput a ("output . " ++ toString n)
    return first ++ (← writeFields (n + 1) rest)

/-- Writes the outputs from the local that holds them. -/
def writeOutputs : List ResolvedArgument → Generator Code
  | [a] => writeOutput a "output"
  | args => writeFields 0 args

/-- The arm for a method that succeeded. -/
def replyArm (rt : String) (outputs : List ResolvedArgument) : Generator Code :=
  if outputs.isEmpty then
    return [.fixed ("Ok (()) => " ++ rt ++ " :: Message :: method_return (message) ,")]
  else do
    let writes ← writeOutputs outputs
    return [.fixed "Ok (output) =>",
      brace ([.fixed ("let mut body = " ++ rt ++ " :: BodyBuf :: new () ;")] ++ writes
        ++ [.fixed (rt ++ " :: Message :: method_return (message) . with_body"),
          paren [.fixed (rt ++ " :: Signature :: new"), paren [.signature (typesOf outputs)],
            .fixed "? , body"]])]

/-- The arm for a method. -/
def dispatchArm (rt : String) (m : ResolvedMethod) : Generator Code := do
  let request ← readInputs rt m.inputs
  let reply ← replyArm rt m.outputs
  return [.fixed "Some", paren [.literal m.name], .fixed "=>",
    brace (request
      ++ [.fixed "match self . inner .", .use m.handle,
        paren (Code.commaSeparated (m.inputs.map fun a => [.use a.ident])),
        brace (reply
          ++ [.fixed ("Err (error) => " ++ rt ++ " :: Message :: error (message , & error) ? ,")])])]

/-- The function that dispatches calls. -/
def dispatch (rt : String) (i : ResolvedInterface) : Generator Code :=
  if i.methods.isEmpty then
    return [.fixed ("fn dispatch (& mut self , _ : & " ++ rt ++ " :: Message) -> " ++ rt
        ++ " :: Result < " ++ rt ++ " :: Dispatch >"),
      brace [.fixed ("Ok (" ++ rt ++ " :: Dispatch :: UnknownMember)")]]
  else do
    let arms ← Generator.each (dispatchArm rt) i.methods
    return [.fixed ("fn dispatch (& mut self , message : & " ++ rt ++ " :: Message) -> " ++ rt
        ++ " :: Result < " ++ rt ++ " :: Dispatch >"),
      brace ([.fixed "if message . interface () . is_some_and",
          paren [.fixed "| interface | interface !=", .literal i.name],
          brace [.fixed ("return Ok (" ++ rt ++ " :: Dispatch :: UnknownMember) ;")],
          .fixed "let reply = match message . member ()",
          brace (arms
            ++ [.fixed ("_ => return Ok (" ++ rt ++ " :: Dispatch :: UnknownMember) ,")]),
          .fixed ("; Ok (" ++ rt ++ " :: Dispatch :: Reply (reply))")])]

/-! ### Properties -/

/-- The arm that gets a property. -/
def getArm (rt : String) (p : ResolvedProperty) : Generator Code :=
  if p.access.isReadable then do
    let write ← Generator.writer p.type
    return [.literal p.name, .fixed "=>",
      brace ([.fixed "let Some (value) = & self . properties .", .use p.field, .fixed "else",
          brace [.fixed "return Err",
            paren [.fixed (rt ++ " :: MethodError :: failed"),
              paren [.literal ("Property `" ++ p.name ++ "` has no value")]],
            .fixed ";"],
          .fixed ("; let mut buf = " ++ rt ++ " :: BodyBuf :: new () ;")]
        ++ Code.call .write write
        ++ [.fixed ("(& mut buf , " ++ passRef p.type "value" ++ ") ? ; Ok"),
          paren [.fixed "buf . to_variant", paren [.signature [p.type]], .fixed "?"]])]
  else
    return [.literal p.name,
      .fixed ("=> Err (" ++ rt ++ " :: MethodError :: property_write_only (name)) ,")]

/-- The arm that sets a property. -/
def setArm (rt : String) (p : ResolvedProperty) : Generator Code :=
  match p.onSet with
  | some onSet => do
    let read ← Generator.reader p.type
    return [.literal p.name, .fixed "=>",
      brace ([.fixed ("let buf = " ++ rt ++ " :: BodyBuf :: from_variant"),
          paren [.fixed "& value ,", .signature [p.type]],
          .fixed (". map_err (" ++ rt ++ " :: MethodError :: invalid_args) ? ; let value =")]
        ++ Code.call .read read
        ++ [.fixed "(& mut buf . read ()) ? ; self . inner .", .use onSet, .fixed "(& value) ? ;"]
        ++ (if p.access.isReadable then
            [.fixed "self . properties .", .use p.field, .fixed "= Some (value) ;"]
          else [])
        ++ [.fixed "Ok (())"])]
  | none =>
    return [.literal p.name,
      .fixed ("=> Err (" ++ rt ++ " :: MethodError :: property_read_only (name)) ,")]

/-- The arms that get and set a property. -/
def propertyArms (rt : String) (p : ResolvedProperty) : Generator (Code × Code) := do
  let get ← getArm rt p
  let set ← setArm rt p
  return (get, set)

/-- The functions that get and set properties. -/
def propertyFunctions (rt : String) (i : ResolvedInterface) : Generator Code := do
  let arms ← i.properties.mapM' (propertyArms rt)
  let unknown := "_ => Err (" ++ rt ++ " :: MethodError :: unknown_property (name)) ,"
  let value := if i.properties.any (·.access.isWritable) then "value" else "_"
  let getAll :=
    if i.properties.isEmpty then "Ok (:: std :: collections :: BTreeMap :: new ())"
    else "Ok (self . properties . to_variants () ?)"
  return [.fixed ("fn get_property (& self , name : & str) -> " ++ rt ++ " :: Result < " ++ rt
      ++ " :: Variant , " ++ rt ++ " :: MethodError >"),
    brace [.fixed "match name", brace (arms.flatMap (·.1) ++ [.fixed unknown])],
    .fixed ("fn set_property (& mut self , name : & str , " ++ value ++ " : " ++ rt
      ++ " :: Variant) -> " ++ rt ++ " :: Result < () , " ++ rt ++ " :: MethodError >"),
    brace [.fixed "match name", brace (arms.flatMap (·.2) ++ [.fixed unknown])],
    .fixed ("fn get_all_properties (& self) -> " ++ rt ++ " :: Result < "
      ++ PropertiesStruct.valueMap rt ++ " , " ++ rt ++ " :: MethodError >"),
    brace [.fixed getAll]]

/-! ### The struct -/

/-- The struct of an interface, its functions and its implementation of what every handler does. -/
def structCode (rt : String) (i : ResolvedInterface) : Generator Code := do
  let dispatch ← dispatch rt i
  let properties ← propertyFunctions rt i
  let field :=
    if i.properties.isEmpty then []
    else remark " The current values of the readable properties."
      ++ [.fixed "pub properties :", .use (PropertiesStruct.name i), .fixed ","]
  let init :=
    if i.properties.isEmpty then []
    else [.fixed "properties :", .use (PropertiesStruct.name i), .fixed ":: default () ,"]
  return doc (i.doc.getD ("Handler implementing the `" ++ i.name ++ "` interface."))
    ++ [.fixed "pub struct", .define (name i), .fixed "< T >",
      brace (remark " The implementation of the methods." ++ [.fixed "pub inner : T ,"] ++ field),
      .fixed "impl < T >", .use (name i), .fixed "< T > where T :", .use (traitName i), .fixed ",",
      brace (remark " The name of the interface."
        ++ [.fixed "pub const INTERFACE : & 'static str =", .literal i.name, .fixed ";"]
        ++ remark " Construct a new handler around an implementation."
        ++ [.fixed "pub fn new (inner : T) -> Self",
          brace [.fixed "Self", brace (.fixed "inner ," :: init)]]),
      .fixed ("impl < T > " ++ rt ++ " :: InterfaceHandler for"), .use (name i),
      .fixed "< T > where T :", .use (traitName i), .fixed ",",
      brace ([.fixed "# [inline] fn interface_name (& self) -> & 'static str",
          brace [.literal i.name]]
        ++ dispatch ++ properties)]

/-! ### The emitter -/

/-- The function that emits a signal. -/
def emit (rt : String) (s : ResolvedSignal) : Generator Code := do
  let body ← Arguments.intoMessage rt "message" s.arguments
  return doc (s.doc.getD ("Emit the `" ++ s.name ++ "` signal."))
    ++ [.fixed "pub fn", .define s.emit,
      paren (.fixed "& self ," :: Arguments.params (paramText rt) s.arguments),
      .fixed ("-> " ++ rt ++ " :: Result < () >"),
      brace ([.fixed ("let message = " ++ rt ++ " :: Message :: signal"),
          paren [.fixed "& self . path ,", .literal s.name],
          .fixed ". with_interface (Self :: INTERFACE) ;"]
        ++ body ++ [.fixed "self . transport . emit (message)"])]

/-- The function that emits a change of properties. -/
def emitChanges (rt : String) (i : ResolvedInterface) : Code :=
  if i.properties.isEmpty then []
  else
    remark " Emit the standard `PropertiesChanged` signal for the"
      ++ remark " properties which are set in `changed`."
      ++ [.fixed "pub fn", .define (.plain "emit_properties_changed"),
        paren [.fixed "& self , changed : &", .use (PropertiesStruct.name i),
          .fixed ", invalidated : & [& str] ,"],
        .fixed ("-> " ++ rt ++ " :: Result < () >"),
        brace [.fixed ("let values = changed . to_variants () ? ; " ++ rt
          ++ " :: emit_properties_changed "
          ++ "(& self . transport , & self . path , Self :: INTERFACE , & values , invalidated)")]]

/-- The emitter of an interface. -/
def emitterCode (rt : String) (i : ResolvedInterface) : Generator Code := do
  let emits ← Generator.each (emit rt) i.signals
  return doc ("Emits the signals of the `" ++ i.name ++ "` interface for one object.")
    ++ [.fixed "pub struct", .define (emitterName i), .fixed "< T >",
      brace [.fixed ("transport : T , path : " ++ rt ++ " :: ObjectPathBuf ,")],
      .fixed "impl < T >", .use (emitterName i), .fixed ("< T > where T : " ++ rt ++ " :: Transport ,"),
      brace (remark " The name of the interface."
        ++ [.fixed "pub const INTERFACE : & 'static str =", .literal i.name, .fixed ";"]
        ++ remark " Construct an emitter for the object at `path`."
        ++ [.fixed "pub fn", .define (.plain "new"),
          .fixed ("(transport : T , path : & " ++ rt ++ " :: ObjectPath) -> Self"),
          brace [.fixed "Self", brace [.fixed "transport , path : path . to_owned () ,"]]]
        ++ emits ++ emitChanges rt i)]

/-- The handler of an interface, with its trait and its emitter. -/
def code (rt : String) (i : ResolvedInterface) : Generator Code := do
  let struct ← structCode rt i
  let emitter ← emitterCode rt i
  return traitCode rt i ++ struct ++ emitter

end Handler

end DBus.Bindings
