import DBus.Files.Tree
import DBus.Introspect.Error
import DBus.TypeCode

/-!
# Errors of generation

Why a document or an interface has no bindings, and why bindings could not be written.
-/

namespace DBus.Bindings

/-- Why bindings are missing. -/
inductive BindingError where
  /-- A document could not be read. -/
  | read (path : String) (cause : Files.FileError)
  /-- A document is no introspection document. -/
  | load (path : String) (cause : Introspect.LoadError)
  | noInterfaces (path : String)
  /-- A document is asked for in a mode that does not exist. -/
  | document (path : String) (mode : String)
  | unknownMode (mode : String)
  | signature (interface member spelling : String) (cause : SignatureError)
  /-- A file could not be written. -/
  | write (path : String) (cause : Files.FileError)
  deriving DecidableEq, Repr

namespace BindingError

/-- The wording for a mode that does not exist. -/
def unknownModeMessage (mode : String) : String :=
  "Unknown mode `" ++ mode ++ "`, expected `Proxy` or `Handler`"

/-- The name of the kind of an error, for programs. -/
def kind : BindingError → String
  | .read _ _ => "Io"
  | .load _ _ => "Xml"
  | .noInterfaces _ => "NoInterfaces"
  | .document _ _ => "Document"
  | .unknownMode _ => "UnknownMode"
  | .signature _ _ _ _ => "Signature"
  | .write _ _ => "Write"

/-- The wording of an error. -/
def message : BindingError → String
  | .read path cause => path ++ ": " ++ cause.message
  | .load path cause => path ++ ": " ++ cause.message
  | .noInterfaces path => path ++ ": Document declares no interfaces"
  | .document path mode => path ++ ": " ++ unknownModeMessage mode
  | .unknownMode mode => unknownModeMessage mode
  | .signature interface member spelling cause =>
    interface ++ "." ++ member ++ ": Bad signature `" ++ spelling ++ "`: " ++ cause.message
  | .write path cause => path ++ ": " ++ cause.message

/-- The wording of the error that an error comes from. -/
def source? : BindingError → Option String
  | .read _ cause => some cause.message
  | .load _ cause => some cause.message
  | .noInterfaces _ | .unknownMode _ => none
  | .document _ mode => some (unknownModeMessage mode)
  | .signature _ _ _ cause => some cause.message
  | .write _ cause => some cause.message

/-- The interface that an error is about. -/
def interface? : BindingError → Option String
  | .signature interface _ _ _ => some interface
  | _ => none

/-- The file that an error is about. -/
def path? : BindingError → Option String
  | .read path _ | .load path _ | .noInterfaces path | .document path _ | .write path _ => some path
  | .unknownMode _ | .signature _ _ _ _ => none

end BindingError

end DBus.Bindings
