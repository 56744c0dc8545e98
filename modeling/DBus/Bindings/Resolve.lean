import DBus.Bindings.Error
import DBus.Bindings.Model
import DBus.Bindings.Name
import DBus.Signature.Scan

/-!
# Resolving an interface

Before anything is generated for an interface, all its signatures are read and all its names made
distinct. The first signature that is wrong, in the order methods, signals, properties, is the error
of the interface; names never fail.
-/

namespace DBus.Bindings

/-- An argument with its identifier and type. -/
structure ResolvedArgument where
  ident : Ident
  type : Ty
  deriving DecidableEq

/-- A method with its identifiers. -/
structure ResolvedMethod where
  name : String
  doc : Option String
  /-- The function of the handler's trait. -/
  handle : Ident
  /-- The function of the proxy. -/
  call : Ident
  inputs : List ResolvedArgument
  outputs : List ResolvedArgument
  deriving DecidableEq

/-- A signal with its identifiers. -/
structure ResolvedSignal where
  name : String
  doc : Option String
  /-- The function of the proxy. -/
  watch : Ident
  /-- The function beside the proxy that reads the arguments. -/
  decode : Ident
  /-- The function of the emitter. -/
  emit : Ident
  arguments : List ResolvedArgument
  deriving DecidableEq

/-- A property with its identifiers. -/
structure ResolvedProperty where
  name : String
  doc : Option String
  /-- The field of the struct of properties. -/
  field : Ident
  /-- The function of the proxy to get it, if it can be read. -/
  get : Option Ident
  /-- The function of the proxy to set it, if it can be written. -/
  set : Option Ident
  /-- The function of the handler's trait that is told of a new value, if it can be written. -/
  onSet : Option Ident
  type : Ty
  access : Access
  deriving DecidableEq

/-- An interface with its identifiers and types. -/
structure ResolvedInterface where
  name : String
  doc : Option String
  /-- What the names of its types begin with. -/
  typeName : String
  /-- What stands in the names of its functions. -/
  snakeName : String
  methods : List ResolvedMethod
  signals : List ResolvedSignal
  properties : List ResolvedProperty
  deriving DecidableEq

/-- The types of a list of arguments. -/
def typesOf (args : List ResolvedArgument) : List Ty :=
  args.map (·.type)

namespace Resolve

/-- The functions that every proxy has. -/
def proxyFunctions : List String :=
  ["new", "transport", "path", "get_property_variant", "set_property_variant",
   "get_all_properties", "watch_properties_changed"]

/-- The functions that every emitter has. -/
def emitterFunctions : List String := ["new", "emit_properties_changed"]

/-- The names taken in each item that is generated for an interface. -/
structure Scopes where
  proxy : Scope := ⟨proxyFunctions⟩
  emitter : Scope := ⟨emitterFunctions⟩
  handler : Scope := ⟨[]⟩
  fields : Scope := ⟨[]⟩

/-- The type that a signature of a member spells. -/
def typeOf (interface member spelling : String) : Except BindingError Ty :=
  match Ty.parse spelling with
  | .ok t => .ok t
  | .error cause => .error (.signature interface member spelling cause)

/-- The arguments of a member, counted from an index, and the scope behind them. -/
def arguments (interface member : String) :
    (index : Nat) → Scope → List Argument → Except BindingError (List ResolvedArgument × Scope)
  | _, scope, [] => .ok ([], scope)
  | index, scope, a :: rest => do
    let (ident, scope) := scope.argument a.name index
    let type ← typeOf interface member a.signature
    let (rest, scope) ← arguments interface member (index + 1) scope rest
    return (⟨ident, type⟩ :: rest, scope)

/-- The methods of an interface. -/
def methods (interface : String) :
    Scopes → List Method → Except BindingError (List ResolvedMethod × Scopes)
  | s, [] => .ok ([], s)
  | s, m :: rest => do
    let snake := snakeCase m.name
    let (handle, handler) := s.handler.ident snake
    let (call, proxy) := s.proxy.ident snake
    let (inputs, scope) ← arguments interface m.name 0 .ofArguments m.inputs
    let (outputs, _) ← arguments interface m.name 0 scope m.outputs
    let (rest, s) ← methods interface { s with handler, proxy } rest
    return (⟨m.name, m.doc, handle, call, inputs, outputs⟩ :: rest, s)

/-- The characters behind a beginning, or all of them if they begin otherwise. -/
def behind (beginning : String) (text : String) : String :=
  let cs := text.toList
  if beginning.toList.isPrefixOf cs then String.ofList (cs.drop beginning.length) else text

/-- The signals of an interface. -/
def signals (interface snakeName : String) :
    Scopes → List Signal → Except BindingError (List ResolvedSignal × Scopes)
  | s, [] => .ok ([], s)
  | s, g :: rest => do
    let snake := snakeCase g.name
    let (watch, proxy) := s.proxy.claim ("watch_" ++ snake)
    let decode := Ident.ofName ("decode_" ++ snakeName ++ "_" ++ behind "watch_" watch)
    let (emit, emitter) := s.emitter.ident ("emit_" ++ snake)
    let (args, _) ← arguments interface g.name 0 .ofArguments g.arguments
    let (rest, s) ← signals interface snakeName { s with proxy, emitter } rest
    return (⟨g.name, g.doc, Ident.ofName watch, decode, emit, args⟩ :: rest, s)

/-- Takes an identifier if there is need for one. -/
def identIf (need : Bool) (s : Scope) (name : String) : Option Ident × Scope :=
  if need then
    let (ident, s) := s.ident name
    (some ident, s)
  else (none, s)

/-- The properties of an interface. -/
def properties (interface : String) :
    Scopes → List Property → Except BindingError (List ResolvedProperty × Scopes)
  | s, [] => .ok ([], s)
  | s, p :: rest => do
    let snake := snakeCase p.name
    let (field, fields) := s.fields.ident snake
    let (get, proxy) := identIf p.access.isReadable s.proxy ("get_" ++ snake)
    let (set, proxy) := identIf p.access.isWritable proxy ("set_" ++ snake)
    let (onSet, handler) := identIf p.access.isWritable s.handler ("on_set_" ++ snake)
    let type ← typeOf interface p.name p.signature
    let (rest, s) ← properties interface { s with fields, proxy, handler } rest
    return (⟨p.name, p.doc, field, get, set, onSet, type, p.access⟩ :: rest, s)

end Resolve

/-- The identifiers and types of an interface, or its first wrong signature. -/
def resolve (i : Interface) : Except BindingError ResolvedInterface := do
  let typeName := Bindings.typeName i.name
  let snakeName := snakeCase typeName
  let (methods, s) ← Resolve.methods i.name {} i.methods
  let (signals, s) ← Resolve.signals i.name snakeName s i.signals
  let (properties, _) ← Resolve.properties i.name s i.properties
  return { name := i.name, doc := i.doc, typeName, snakeName, methods, signals, properties }

end DBus.Bindings
