import DBus.Bindings.Resolve
import DBus.Bindings.Synthesis

/-!
# Arguments in generated code

The pieces that proxies and handlers share: parameters, and locals read from a body or written to
one. The generated code at the two ends of a call or signal treats the arguments in the same order
and by routines of the same types.
-/

namespace DBus.Bindings

namespace Arguments

/-- A parameter for each argument, each of the type that a function gives. -/
def params (typeText : Ty → String) (args : List ResolvedArgument) : Code :=
  Code.commaSeparated (args.map fun a => [.define a.ident, .fixed (": " ++ typeText a.type)])

/-- Reads every argument out of the local `body` into a local of its own. -/
def readLocals : List ResolvedArgument → Generator Code :=
  Generator.each fun a => do
    let read ← Generator.reader a.type
    return [.fixed "let", .define a.ident, .fixed "="] ++ Code.call .read read
      ++ [.fixed "(& mut body) ? ;"]

/-- Writes every argument into the local `body`. -/
def writeLocals : List ResolvedArgument → Generator Code :=
  Generator.each fun a => do
    let write ← Generator.writer a.type
    return Code.call .write write ++ [Code.paren [.fixed "& mut body ,", .use a.ident], .fixed "? ;"]

/-- The values of the arguments together, as `ownedTuple` types them. -/
def tuple : List ResolvedArgument → Code
  | [] => [.fixed "()"]
  | [a] => [.use a.ident]
  | args => [Code.paren (Code.commaSeparated (args.map fun a => [.use a.ident]))]

/-- The type of the values of the arguments together. -/
def tupleType (rt : String) (args : List ResolvedArgument) : String :=
  ownedTuple rt (typesOf args)

/-- Compares the signature of a message with that of the arguments, reads them from it and gives
their values. -/
def fromMessage (message : String) (args : List ResolvedArgument) : Generator Code :=
  if args.isEmpty then
    return [.fixed (message ++ " . body_of"), Code.paren [.signature (typesOf args)],
      .fixed "? ; Ok (())"]
  else do
    let reads ← readLocals args
    return [.fixed ("let mut body = " ++ message ++ " . body_of"),
        Code.paren [.signature (typesOf args)], .fixed "? ;"]
      ++ reads ++ [.fixed "Ok", Code.paren (tuple args)]

/-- Writes the arguments into a body and gives it, with their signature, to the message in a local.
Without arguments the message stays as it is. -/
def intoMessage (rt : String) (message : String) (args : List ResolvedArgument) :
    Generator Code :=
  if args.isEmpty then return []
  else do
    let writes ← writeLocals args
    return [.fixed ("let mut body = " ++ rt ++ " :: BodyBuf :: new () ;")] ++ writes
      ++ [.fixed ("let " ++ message ++ " = " ++ message ++ " . with_body"),
        Code.paren [.fixed (rt ++ " :: Signature :: new"), Code.paren [.signature (typesOf args)],
          .fixed "? , body"],
        .fixed ";"]

end Arguments

end DBus.Bindings
