import DBus.Bindings.Arguments
import DBus.Bindings.Properties

/-!
# Proxies

The proxy of an interface: a struct with a function for each method, a function to watch each signal,
and functions to get, set and watch the properties. The functions that read the arguments of signals
stand beside the struct.
-/

namespace DBus.Bindings

namespace Proxy

open Code (paren brace bracket doc remark)

/-- A part of a proxy. -/
structure Section where
  /-- Functions of the proxy. -/
  functions : Code
  /-- Functions beside it. -/
  beside : Code := []

/-- The name of the struct. -/
def name (i : ResolvedInterface) : Ident :=
  .plain (i.typeName ++ "Proxy")

/-- The function that calls a method. -/
def method (rt : String) (m : ResolvedMethod) : Generator Section := do
  let request ← Arguments.intoMessage rt "call" m.inputs
  let response ← Arguments.fromMessage "reply" m.outputs
  let function :=
    doc (m.doc.getD ("Call the `" ++ m.name ++ "` method."))
      ++ [.fixed "pub async fn", .define m.call,
        paren (.fixed "& self ," :: Arguments.params (paramText rt) m.inputs),
        .fixed ("-> " ++ rt ++ " :: Result < " ++ Arguments.tupleType rt m.outputs ++ " >"),
        brace ([.fixed ("let call = " ++ rt ++ " :: Message :: method_call"),
            paren [.fixed "& self . path ,", .literal m.name],
            .fixed (". with_interface (Self :: INTERFACE) "
              ++ ". with_destination (self . destination . as_deref ()) ;")]
          ++ request ++ [.fixed "let reply = self . transport . call (call) . await ? ;"]
          ++ response)]
  return { functions := function }

/-- The function that watches a signal. -/
def watch (rt : String) (s : ResolvedSignal) : Code :=
  doc (s.doc.getD ("Watch the `" ++ s.name ++ "` signal."))
    ++ remark ""
    ++ remark " The watch is cancelled when the returned value is dropped."
    ++ [.fixed "pub fn", .define s.watch,
      .fixed ("< H > (& self , mut handler : H) -> " ++ rt ++ " :: Result < " ++ rt
        ++ " :: SignalWatch > where H : FnMut (" ++ rt ++ " :: Result < "
        ++ Arguments.tupleType rt s.arguments ++ " >) + Send + 'static ,"),
      brace [.fixed ("let rule = " ++ rt ++ " :: MatchRule :: new"),
        paren [.fixed "Self :: INTERFACE ,", .literal s.name],
        .fixed (". with_path (& self . path) ; "
          ++ "let subscription = self . transport . subscribe (rule) ? ; Ok"),
        paren [.fixed (rt ++ " :: SignalWatch :: spawn"),
          paren [.fixed "subscription , move | message | handler",
            paren [.use s.decode, .fixed "(& message)"]]]]]

/-- The function that watches a signal, and the one that reads its arguments. -/
def signal (rt : String) (s : ResolvedSignal) : Generator Section := do
  let response ← Arguments.fromMessage "message" s.arguments
  return { functions := watch rt s
           beside := [.fixed "fn", .define s.decode,
             .fixed ("(message : & " ++ rt ++ " :: Message) -> " ++ rt ++ " :: Result < "
               ++ Arguments.tupleType rt s.arguments ++ " >"),
             brace response] }

/-- What the calls of the standard properties interface have in common: the name of the member and
the signature of what is sent. -/
def propertiesCall (rt member spelling : String) : Code :=
  [.fixed ("let call = " ++ rt ++ " :: Message :: method_call"),
    paren [.fixed "& self . path ,", .literal member],
    .fixed (". with_interface (" ++ rt ++ " :: PROPERTIES_INTERFACE) "
      ++ ". with_destination (self . destination . as_deref ()) . with_body"),
    paren [.fixed (rt ++ " :: Signature :: new"), paren [.literal spelling], .fixed "? , body"],
    .fixed "; let reply = self . transport . call (call) . await ? ;"]

/-- Writes one thing into the local `body`. -/
def writeOne (write expression : String) : Code :=
  Code.call .write write ++ [.fixed ("(& mut body , " ++ expression ++ ") ? ;")]

/-- The function that gets any property. -/
def anyGetter (rt writeString readVariant : String) : Code :=
  remark " Get the value of a property of the interface."
    ++ [.fixed "pub async fn", .define (.plain "get_property_variant"),
      .fixed ("(& self , name : & str) -> " ++ rt ++ " :: Result < " ++ rt ++ " :: Variant >"),
      brace (.fixed ("let mut body = " ++ rt ++ " :: BodyBuf :: new () ;")
        :: writeOne writeString "Self :: INTERFACE"
        ++ writeOne writeString "name"
        ++ propertiesCall rt "Get" "ss"
        ++ [.fixed "let mut body = reply . body_of", paren [.literal "v"], .fixed "? ;"]
        ++ Code.call .read readVariant ++ [.fixed "(& mut body)"])]

/-- The function that sets any property. -/
def anySetter (rt writeString writeVariant : String) : Code :=
  remark " Set the value of a property of the interface."
    ++ [.fixed "pub async fn", .define (.plain "set_property_variant"),
      .fixed ("(& self , name : & str , value : & " ++ rt ++ " :: Variant) -> " ++ rt
        ++ " :: Result < () >"),
      brace (.fixed ("let mut body = " ++ rt ++ " :: BodyBuf :: new () ;")
        :: writeOne writeString "Self :: INTERFACE"
        ++ writeOne writeString "name"
        ++ writeOne writeVariant "value"
        ++ propertiesCall rt "Set" "ssv"
        ++ [.fixed "reply . body_of", paren [.literal ""], .fixed "? ; Ok (())"])]

/-- The functions that get and set any property. Their routines are asked for once for both. -/
def anyProperty (rt : String) : Generator Section := do
  let writeString ← Generator.writer (.basic .string)
  let writeVariant ← Generator.writer .variant
  let readVariant ← Generator.reader .variant
  return {
    functions := anyGetter rt writeString readVariant ++ anySetter rt writeString writeVariant }

/-- The function that gets a property. -/
def getter (rt : String) (p : ResolvedProperty) (get : Ident) : Generator Code := do
  let read ← Generator.reader p.type
  return doc (p.doc.getD ("Get the `" ++ p.name ++ "` property."))
    ++ [.fixed "pub async fn", .define get,
      .fixed ("(& self) -> " ++ rt ++ " :: Result < " ++ ownedText rt p.type ++ " >"),
      brace ([.fixed "let value = self . get_property_variant", paren [.literal p.name],
          .fixed (". await ? ; let buf = " ++ rt ++ " :: BodyBuf :: from_variant"),
          paren [.fixed "& value ,", .signature [p.type]], .fixed "? ;"]
        ++ Code.call .read read ++ [.fixed "(& mut buf . read ())"])]

/-- The function that sets a property. -/
def setter (rt : String) (p : ResolvedProperty) (set : Ident) : Generator Code := do
  let write ← Generator.writer p.type
  return doc ("Set the `" ++ p.name ++ "` property.")
    ++ [.fixed "pub async fn", .define set,
      .fixed ("(& self , value : " ++ paramText rt p.type ++ ") -> " ++ rt ++ " :: Result < () >"),
      brace ([.fixed ("let mut buf = " ++ rt ++ " :: BodyBuf :: new () ;")]
        ++ Code.call .write write
        ++ [.fixed "(& mut buf , value) ? ; let value = buf . to_variant",
          paren [.signature [p.type]], .fixed "? ; self . set_property_variant",
          paren [.literal p.name, .fixed ", & value"], .fixed ". await"])]

/-- The functions that get and set a property. -/
def property (rt : String) (p : ResolvedProperty) : Generator Section := do
  let getter ← match p.get with
    | some get => getter rt p get
    | none => pure []
  let setter ← match p.set with
    | some set => setter rt p set
    | none => pure []
  return { functions := getter ++ setter }

/-- The name of the function that reads a change of properties. -/
def changesName (i : ResolvedInterface) : Ident :=
  .plain ("decode_" ++ i.snakeName ++ "_properties_changed")

/-- The map of the values of properties by name. -/
def propertyMap : Ty := .array (.entry (.basic .string) .variant)

/-- A list of names. -/
def nameList : Ty := .array (.basic .string)

/-- The function that gets all properties. -/
def allGetter (rt : String) (i : ResolvedInterface) (writeString readMap : String) : Code :=
  remark " Get the values of all readable properties."
    ++ [.fixed "pub async fn", .define (.plain "get_all_properties"),
      .fixed ("(& self) -> " ++ rt ++ " :: Result <"), .use (PropertiesStruct.name i), .fixed ">",
      brace (.fixed ("let mut body = " ++ rt ++ " :: BodyBuf :: new () ;")
        :: writeOne writeString "Self :: INTERFACE"
        ++ propertiesCall rt "GetAll" "s"
        ++ [.fixed "let mut body = reply . body_of", paren [.literal "a\x7bsv\x7d"],
          .fixed "? ; let values ="]
        ++ Code.call .read readMap
        ++ [.fixed "(& mut body) ? ;", .use (PropertiesStruct.name i),
          .fixed ":: from_variants (& values)"])]

/-- The function that watches changes of properties. -/
def watchChanges (rt : String) (i : ResolvedInterface) : Code :=
  remark " Watch changes to the properties of the interface."
    ++ remark ""
    ++ remark " The watch is cancelled when the returned value is dropped."
    ++ [.fixed "pub fn", .define (.plain "watch_properties_changed"),
      .fixed ("< H > (& self , mut handler : H) -> " ++ rt ++ " :: Result < " ++ rt
        ++ " :: SignalWatch > where H : FnMut"),
      paren [.fixed (rt ++ " :: Result < " ++ rt ++ " :: PropertyChanges <"),
        .use (PropertiesStruct.name i), .fixed ">>"],
      .fixed "+ Send + 'static ,",
      brace [.fixed ("let rule = " ++ rt ++ " :: MatchRule :: new"),
        paren [.fixed (rt ++ " :: PROPERTIES_INTERFACE ,"), .literal "PropertiesChanged"],
        .fixed (". with_path (& self . path) ; "
          ++ "let subscription = self . transport . subscribe (rule) ? ; Ok"),
        paren [.fixed (rt ++ " :: SignalWatch :: spawn"),
          paren [.fixed "subscription , move | message |",
            brace [.fixed "match", .use (changesName i), .fixed "(& message)",
              brace [.fixed "Ok (Some (changes)) => handler (Ok (changes)) , Ok (None) =>",
                brace [], .fixed "Err (error) => handler (Err (error)) ,"]]]]]]

/-- The function that reads a change of properties. -/
def decodeChanges (rt : String) (i : ResolvedInterface) (readString readMap readNames : String) :
    Code :=
  [.fixed "fn", .define (changesName i),
    .fixed ("(message : & " ++ rt ++ " :: Message ,) -> " ++ rt ++ " :: Result < Option < " ++ rt
      ++ " :: PropertyChanges <"),
    .use (PropertiesStruct.name i), .fixed ">> >",
    brace ([.fixed "let mut body = message . body_of", paren [.literal "sa\x7bsv\x7das"],
        .fixed "? ; if"]
      ++ Code.call .read readString
      ++ [.fixed "(& mut body) ? !=", .literal i.name, brace [.fixed "return Ok (None) ;"],
        .fixed "let values ="]
      ++ Code.call .read readMap
      ++ [.fixed "(& mut body) ? ; let invalidated ="]
      ++ Code.call .read readNames
      ++ [.fixed
          "(& mut body) ? ; let names = values . keys () . cloned () . collect () ; let changed =",
        .use (PropertiesStruct.name i),
        .fixed (":: from_variants (& values) ? ; Ok (Some (" ++ rt
          ++ " :: PropertyChanges :: new (changed , names , invalidated)))")])]

/-- The functions that get all properties and watch their changes, and the one that reads a change.
Their routines are asked for once for all of them. -/
def allProperties (rt : String) (i : ResolvedInterface) : Generator Section := do
  let readString ← Generator.reader (.basic .string)
  let readMap ← Generator.reader propertyMap
  let readNames ← Generator.reader nameList
  let writeString ← Generator.writer (.basic .string)
  return { functions := allGetter rt i writeString readMap ++ watchChanges rt i
           beside := decodeChanges rt i readString readMap readNames }

/-- The parts of a proxy that are about properties. -/
def propertySections (rt : String) (i : ResolvedInterface) : Generator (List Section) := do
  if i.properties.isEmpty then return []
  else
    let any ← anyProperty rt
    let each ← i.properties.mapM' (property rt)
    let all ← allProperties rt i
    return any :: each ++ [all]

/-- The parts of a proxy that depend on its members. -/
def sections (rt : String) (i : ResolvedInterface) : Generator (List Section) := do
  let methods ← i.methods.mapM' (method rt)
  let signals ← i.signals.mapM' (signal rt)
  let properties ← propertySections rt i
  return methods ++ signals ++ properties

/-- The functions that every proxy begins with. -/
def opening (rt interface : String) : Code :=
  remark " The name of the interface."
    ++ [.fixed "pub const INTERFACE : & 'static str =", .literal interface, .fixed ";"]
    ++ remark " Construct a proxy for the object at `path`, owned by"
    ++ remark " `destination`."
    ++ [.fixed "pub fn", .define (.plain "new"),
      .fixed ("(transport : T , destination : Option < & str > , path : & " ++ rt
        ++ " :: ObjectPath) -> Self"),
      brace [.fixed "Self", brace [.fixed ("transport , destination : destination . "
        ++ "map (String :: from) , path : path . to_owned () ,")]]]
    ++ remark " The transport used by the proxy."
    ++ [.fixed "pub fn", .define (.plain "transport"), .fixed "(& self) -> & T",
      brace [.fixed "& self . transport"]]
    ++ remark " The path of the object being called."
    ++ [.fixed "pub fn", .define (.plain "path"),
      .fixed ("(& self) -> & " ++ rt ++ " :: ObjectPath"), brace [.fixed "& self . path"]]

/-- The proxy of an interface. -/
def code (rt : String) (i : ResolvedInterface) : Generator Code := do
  let parts ← sections rt i
  return doc (i.doc.getD ("Proxy for calling the `" ++ i.name ++ "` interface."))
    ++ [.fixed "pub struct", .define (name i), .fixed "< T >",
      brace [.fixed ("transport : T , destination : Option < String > , path : " ++ rt
        ++ " :: ObjectPathBuf ,")],
      .fixed "impl < T >", .use (name i), .fixed ("< T > where T : " ++ rt ++ " :: Transport ,"),
      brace (opening rt i.name ++ parts.flatMap (·.functions))]
    ++ parts.flatMap (·.beside)

end Proxy

end DBus.Bindings
