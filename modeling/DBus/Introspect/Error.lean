/-!
# Errors of introspection documents

What can be wrong with a document, and where: the path of an error is the names of the elements that
are open, joined by slashes.
-/

namespace DBus.Introspect

/-- What is wrong with a document. -/
inductive Problem where
  /-- The text is not markup. -/
  | markup
  | unsupportedElementStart (element : String)
  | unsupportedElementEnd
  | unsupportedAttribute (found : String)
  | unsupportedText
  | mismatchingEnd (expected actual : String)
  | missingNode
  | missingMethodName
  | missingSignalName
  | missingPropertyName
  | missingInterfaceName
  | missingArgumentType
  | missingPropertyType
  | missingPropertyAccess
  | missingAnnotationName
  | missingAnnotationValue
  | unsupportedArgumentDirection (direction : String)
  | unsupportedPropertyAccess (access : String)
  deriving DecidableEq, Repr

/-- The name of the kind of a problem, for programs. -/
def Problem.kind : Problem → String
  | .markup => "XmlParser"
  | .unsupportedElementStart _ => "UnsupportedElementStart"
  | .unsupportedElementEnd => "UnsupportedElementEnd"
  | .unsupportedAttribute _ => "UnsupportedAttribute"
  | .unsupportedText => "UnsupportedText"
  | .mismatchingEnd _ _ => "MismatchingEnd"
  | .missingNode => "MissingNode"
  | .missingMethodName => "MissingMethodName"
  | .missingSignalName => "MissingSignalName"
  | .missingPropertyName => "MissingPropertyName"
  | .missingInterfaceName => "MissingInterfaceName"
  | .missingArgumentType => "MissingArgumentType"
  | .missingPropertyType => "MissingPropertyType"
  | .missingPropertyAccess => "MissingPropertyAccess"
  | .missingAnnotationName => "MissingAnnotationName"
  | .missingAnnotationValue => "MissingAnnotationValue"
  | .unsupportedArgumentDirection _ => "UnsupportedArgumentDirection"
  | .unsupportedPropertyAccess _ => "UnsupportedPropertyAccess"

/-- The wording of a problem. Markup that is broken has none of its own. -/
def Problem.message : Problem → String
  | .markup => ""
  | .unsupportedElementStart element => "Unsupported element: " ++ element
  | .unsupportedElementEnd => "Unsupported element end"
  | .unsupportedAttribute found => "Unsupported attribute: " ++ found
  | .unsupportedText => "Unsupported text"
  | .mismatchingEnd expected actual =>
    "Mismatching end: expected " ++ expected ++ ", found " ++ actual
  | .missingNode => "Missing root node element"
  | .missingMethodName => "Missing method name"
  | .missingSignalName => "Missing signal name"
  | .missingPropertyName => "Missing property name"
  | .missingInterfaceName => "Missing interface name"
  | .missingArgumentType => "Missing argument type"
  | .missingPropertyType => "Missing property type"
  | .missingPropertyAccess => "Missing property access"
  | .missingAnnotationName => "Missing annotation name"
  | .missingAnnotationValue => "Missing annotation value"
  | .unsupportedArgumentDirection direction =>
    "Unsupported argument direction `" ++ direction ++ "`"
  | .unsupportedPropertyAccess access => "Unsupported property access `" ++ access ++ "`"

/-- A problem and where it is. -/
structure LoadError where
  /-- The names of the open elements, joined by slashes. -/
  path : String
  problem : Problem
  deriving DecidableEq, Repr

/-- The wording of an error, which begins with its path if it has one. -/
def LoadError.message (e : LoadError) : String :=
  if e.path.isEmpty then e.problem.message else e.path ++ ": " ++ e.problem.message

end DBus.Introspect
